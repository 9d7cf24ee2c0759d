import Costing.Proofs.Cost.Items

/-!
# Cost — two walks in step

The same items are costed twice: in a walk on its own, and in a joint walk that has already costed some
items, the base.  The two go through the items in step, except that the joint walk takes from the base
what the other one still has to cost.

`Calculation.Shadows` relates the two.  The joint walk has costed what is in the base or costed on its
own (`costed`), and of an item outside the base both have the same cost, if the item is good (`agree`):
what it contains, at whatever depth, has the same cost in the base and on its own.  `Visits.shadows` says
that the relation is preserved.  The step that is not in step is harmless: the base is closed under
containment, so what the other walk costs below an item of the base is in the base too
(`Visits.within`).
-/

namespace Costing

variable {α : Type}

namespace Calculation

/-! ### The relation -/

/-- A joint walk has costed what is in its base and what another one has costed on its own; of a good
item outside the base both have the same cost. -/
structure Shadows (Good : ItemRef → Prop) (base own joint : Walk α) : Prop where
  kept : ∀ ref result, base.result? ref = some result → joint.result? ref = some result
  costed : ∀ ref, (joint.result? ref).isSome ↔ (base.result? ref).isSome ∨ (own.result? ref).isSome
  agree : ∀ ref, Good ref → base.result? ref = none → ∀ result result',
    own.result? ref = some result → joint.result? ref = some result' → result.cost = result'.cost

namespace Shadows

variable {Good : ItemRef → Prop} {base own own' joint joint' : Walk α}

/-- At first, the walk on its own has costed nothing, and the joint one is its base. -/
theorem start (Good : ItemRef → Prop) (base : Walk α) (steps : Nat) (cache : Formula.Cache) :
    Shadows Good base (.start steps cache) base where
  kept _ _ h := h
  costed ref := by rw [Walk.result?_start]; simp
  agree ref _ hb result result' _ h := by rw [hb] at h; cases h

/-- The walk on its own may cost more of the base. -/
theorem grow (h : Shadows Good base own joint)
    (hmono : ∀ ref result, own.result? ref = some result → own'.result? ref = some result)
    (hnew : ∀ ref, (own'.result? ref).isSome → (own.result? ref).isSome ∨ (base.result? ref).isSome) :
    Shadows Good base own' joint where
  kept := h.kept
  costed ref := by
    rw [h.costed ref]
    constructor
    · rintro (hb | ho)
      · exact .inl hb
      · obtain ⟨result, ho⟩ := Option.isSome_iff_exists.1 ho
        exact .inr (by rw [hmono ref result ho]; rfl)
    · rintro (hb | ho)
      · exact .inl hb
      · exact (hnew ref ho).symm
  agree ref hg hb result result' ho hj := by
    rcases hnew ref (by rw [ho]; rfl) with hold | hbase
    · obtain ⟨before, hold⟩ := Option.isSome_iff_exists.1 hold
      obtain rfl := Option.some.inj ((hmono ref before hold).symm.trans ho)
      exact h.agree ref hg hb before result' hold hj
    · rw [hb] at hbase; cases hbase

/-- Both walks cost an item that is not in the base. -/
theorem put (h : Shadows Good base own joint) (hown : own'.result? = own.result?)
    (hjoint : joint'.result? = joint.result?) {ref : ItemRef} (hb : base.result? ref = none)
    {result result' : ItemResult α} (hcost : Good ref → result.cost = result'.cost) :
    Shadows Good base (own'.put ref result) (joint'.put ref result') where
  kept other r hr := by
    have hne : ref ≠ other := fun e => by rw [e, hr] at hb; cases hb
    rw [Walk.result?_put_of_ne _ hne, hjoint]
    exact h.kept other r hr
  costed other := by
    by_cases e : ref = other
    · subst e
      simp
    · rw [Walk.result?_put_of_ne _ e, Walk.result?_put_of_ne _ e, hown, hjoint]
      exact h.costed other
  agree other hg hbo r r' ho hj := by
    by_cases e : ref = other
    · subst e
      rw [Walk.result?_put_self] at ho hj
      cases ho; cases hj
      exact hcost hg
    · rw [Walk.result?_put_of_ne _ e] at ho hj
      rw [hown] at ho; rw [hjoint] at hj
      exact h.agree other hg hbo r r' ho hj

/-- The joint walk has what the base has, or what the other has costed. -/
theorem joint_eq_none (h : Shadows Good base own joint) {ref : ItemRef} (hb : base.result? ref = none)
    (ho : own.result? ref = none) : joint.result? ref = none := by
  by_contra hj
  rcases (h.costed ref).1 (Option.isSome_iff_ne_none.2 hj) with hs | hs
  · rw [hb] at hs; cases hs
  · rw [ho] at hs; cases hs

end Shadows

variable [Add α] {c : Calculation α}

/-- A walk has ended: it has costed known items only, and whatever these contain. -/
structure Ended (c : Calculation α) (w : Walk α) : Prop where
  recorded : c.Recorded w
  closed : c.Closed [] w

/-- An unknown item is not costed. -/
theorem Ended.result?_eq_none {w : Walk α} (hw : c.Ended w) {ref : ItemRef}
    (hi : c.product.item? ref = none) : w.result? ref = none := by
  by_contra h
  obtain ⟨result, hr⟩ := Option.ne_none_iff_exists'.1 h
  obtain ⟨item, -, hknown, -⟩ := hw.recorded ref result hr
  exact absurd (hi.symm.trans hknown) nofun

theorem ended_start (c : Calculation α) (steps : Nat) (cache : Formula.Cache) :
    c.Ended (.start steps cache) :=
  ⟨Walk.allResults_start _ _ _, Walk.allResults_start _ _ _⟩

variable [OfNat α 0]

theorem Visits.ended {items : List ItemRef} {w w' : Walk α} {costs : List (CostRecord α)}
    (h : c.Visits [] items w costs w') (hw : c.Ended w) : c.Ended w' :=
  ⟨h.recorded hw.recorded, (h.closed hw.closed).1⟩

/-! ### What a walk does with its first item -/

namespace Visits

variable {ancestors items : List ItemRef} {ref : ItemRef} {w w' : Walk α} {costs : List (CostRecord α)}

theorem of_inside (h : c.Visits ancestors (ref :: items) w costs w') (hm : ref ∈ ancestors) :
    ∃ rest, costs = .zero :: rest ∧ c.Visits ancestors items (w.noteCycle ref.id) rest w' := by
  cases h with
  | cycle _ tail => exact ⟨_, rfl, tail⟩
  | done outside | unknown outside | visit outside => exact absurd hm outside

theorem of_costed (h : c.Visits ancestors (ref :: items) w costs w') (hm : ref ∉ ancestors)
    {result : ItemResult α} (hr : w.result? ref = some result) :
    ∃ rest, costs = result.cost :: rest ∧ c.Visits ancestors items w rest w' := by
  cases h with
  | cycle inside => exact absurd inside hm
  | done _ costed tail =>
      obtain rfl := Option.some.inj (costed.symm.trans hr)
      exact ⟨_, rfl, tail⟩
  | unknown _ fresh | visit _ fresh => exact absurd (fresh.symm.trans hr) nofun

theorem of_unknown (h : c.Visits ancestors (ref :: items) w costs w') (hm : ref ∉ ancestors)
    (hr : w.result? ref = none) (hi : c.product.item? ref = none) :
    c.Visits ancestors items w costs w' := by
  cases h with
  | cycle inside => exact absurd inside hm
  | done _ costed => exact absurd (hr.symm.trans costed) nofun
  | unknown _ _ _ tail => exact tail
  | visit _ _ known => exact absurd (hi.symm.trans known) nofun

/-- A known item that is not costed yet: what it contains is, and then it is, with its stages costed
afresh. -/
theorem of_known (h : c.Visits ancestors (ref :: items) w costs w') (hm : ref ∉ ancestors)
    (hr : w.result? ref = none) {item : Item} (hi : c.product.item? ref = some item) :
    ∃ (parts rest : List (CostRecord α)) (w₁ w₂ : Walk α),
      costs = (item.result parts (c.freshStages [] item.stages)).cost :: rest ∧
      c.Visits (ref :: ancestors) item.children w parts w₁ ∧ w₂.result? = w₁.result? ∧
      c.Visits ancestors items (w₂.put ref (item.result parts (c.freshStages [] item.stages))) rest w' := by
  cases h with
  | cycle inside => exact absurd inside hm
  | done _ costed => exact absurd (hr.symm.trans costed) nofun
  | unknown _ _ unknown => exact absurd (hi.symm.trans unknown) nofun
  | visit _ _ known children own tail =>
      obtain rfl := Option.some.inj (known.symm.trans hi)
      obtain rfl := (visitStages_ok own).1
      exact ⟨_, _, _, _, rfl, children, result?_visitStages own, tail⟩

/-- A walk over a first item and others is one over the first and then one over the others. -/
theorem split (h : c.Visits ancestors (ref :: items) w costs w') :
    ∃ own rest w₁, c.Visits ancestors [ref] w own w₁ ∧ c.Visits ancestors items w₁ rest w' := by
  cases h with
  | cycle inside tail => exact ⟨_, _, _, .cycle inside .nil, tail⟩
  | done outside costed tail => exact ⟨_, _, _, .done outside costed .nil, tail⟩
  | unknown outside fresh unknown tail => exact ⟨_, _, _, .unknown outside fresh unknown .nil, tail⟩
  | visit outside fresh known children own tail =>
      exact ⟨_, _, _, .visit outside fresh known children own .nil, tail⟩

end Visits

/-! ### In step -/

variable {Good : ItemRef → Prop} {base : Walk α}

/-- What a walk costs below an item of the base is in the base. -/
theorem Ended.within (hbase : c.Ended base) {ancestors : List ItemRef} {ref : ItemRef} {w w' : Walk α}
    {costs : List (CostRecord α)} (h : c.Visits ancestors [ref] w costs w')
    (hb : (base.result? ref).isSome) {other : ItemRef} (hother : (w'.result? other).isSome) :
    (w.result? other).isSome ∨ (base.result? other).isSome := by
  have hclosed : ∀ parent item, c.Settled [] base parent → c.product.item? parent = some item →
      ∀ child ∈ item.children, c.Settled [] base child := by
    rintro parent item (hu | hcosted | ha) hi child hc
    · exact absurd (hu.symm.trans hi) nofun
    · obtain ⟨result, hr⟩ := Option.isSome_iff_exists.1 hcosted
      exact hbase.closed parent result hr item hi child hc
    · exact absurd ha List.not_mem_nil
  refine (h.within hclosed (List.forall_mem_singleton.2 (.inr (.inl hb))) hother).imp_right ?_
  rintro ⟨hk, hu | hcosted | ha⟩
  · rw [hu] at hk; cases hk
  · exact hcosted
  · exact absurd ha List.not_mem_nil

/-- **Two walks in step.**  A walk on its own and a joint one over the same items stay related, and give
the same costs if the items are good. -/
theorem Visits.shadows (hbase : c.Ended base) (hgood : ∀ ref item, Good ref →
      c.product.item? ref = some item → ∀ child ∈ item.children, Good child)
    {ancestors items : List ItemRef} {own own' joint joint' : Walk α} {costs costs' : List (CostRecord α)}
    (h : c.Visits ancestors items own costs own') (hj : c.Visits ancestors items joint costs' joint')
    (habove : ∀ ref ∈ ancestors, base.result? ref = none)
    (hend : ∀ ref, Good ref → ∀ result result', own'.result? ref = some result →
      base.result? ref = some result' → result.cost = result'.cost)
    (hs : Shadows Good base own joint) :
    Shadows Good base own' joint' ∧ ((∀ ref ∈ items, Good ref) → costs = costs') := by
  induction h generalizing joint joint' costs' with
  | nil =>
      cases hj
      exact ⟨hs, fun _ => rfl⟩
  | cycle inside _ ih =>
      obtain ⟨rest, rfl, tail⟩ := hj.of_inside inside
      obtain ⟨hs', heq⟩ := ih tail habove hend ⟨hs.kept, hs.costed, hs.agree⟩
      exact ⟨hs', fun hg => by rw [heq (List.forall_mem_cons.1 hg).2]⟩
  | @done _ _ ref _ _ _ result outside costed htail ih =>
      obtain ⟨result', hresult'⟩ := Option.isSome_iff_exists.1
        ((hs.costed ref).2 (.inr (by rw [costed]; rfl)))
      obtain ⟨rest, rfl, tail⟩ := hj.of_costed outside hresult'
      obtain ⟨hs', heq⟩ := ih tail habove hend hs
      have hcost : Good ref → result.cost = result'.cost := fun hg => by
        cases hb : base.result? ref with
        | none => exact hs.agree ref hg hb result result' costed hresult'
        | some kept =>
            obtain rfl := Option.some.inj ((hs.kept ref kept hb).symm.trans hresult')
            exact hend ref hg result kept (htail.result?_mono costed) hb
      refine ⟨hs', fun hg => ?_⟩
      obtain ⟨href, hrest⟩ := List.forall_mem_cons.1 hg
      rw [hcost href, heq hrest]
  | @unknown _ _ ref _ _ _ outside fresh unknown _ ih =>
      have hjoint := hs.joint_eq_none (hbase.result?_eq_none unknown) fresh
      obtain ⟨hs', heq⟩ := ih (hj.of_unknown outside hjoint unknown) habove hend hs
      exact ⟨hs', fun hg => heq (List.forall_mem_cons.1 hg).2⟩
  | @visit ancestors _ ref item own w₁ w₂ _ parts _ stages outside fresh known children hown htail
      ihchildren ihtail =>
      have hlast := htail.result?_mono (Walk.result?_put_self w₂ ref (item.result parts stages))
      cases hb : base.result? ref with
      | some kept =>
          obtain ⟨rest, rfl, tail⟩ := hj.of_costed outside (hs.kept ref kept hb)
          have hone : c.Visits ancestors [ref] own _ _ :=
            .visit outside fresh known children hown .nil
          have hs₁ := hs.grow (fun _ _ => hone.result?_mono)
            fun _ => hbase.within hone (by rw [hb]; rfl)
          obtain ⟨hs', heq⟩ := ihtail tail habove hend hs₁
          refine ⟨hs', fun hg => ?_⟩
          obtain ⟨href, hrest⟩ := List.forall_mem_cons.1 hg
          rw [hend ref href _ kept hlast hb, heq hrest]
      | none =>
          obtain ⟨parts', rest, v₁, v₂, rfl, hchildren, hv, tail⟩ :=
            hj.of_known outside (hs.joint_eq_none hb fresh) known
          have hw := result?_visitStages hown
          -- What is costed inside the item is kept to the end, beside the item itself.
          have hendw : ∀ other, Good other → ∀ result result', w₁.result? other = some result →
              base.result? other = some result' → result.cost = result'.cost := by
            intro other hg result result' hr hr'
            have hne : ref ≠ other := fun e => by rw [← e, hb] at hr'; cases hr'
            refine hend other hg result result' (htail.result?_mono ?_) hr'
            rw [Walk.result?_put_of_ne _ hne, hw]
            exact hr
          obtain ⟨hs₁, heq₁⟩ := ihchildren hchildren (List.forall_mem_cons.2 ⟨hb, habove⟩) hendw hs
          obtain rfl := (visitStages_ok hown).1
          have hcost : Good ref → (item.result parts (c.freshStages [] item.stages)).cost =
              (item.result parts' (c.freshStages [] item.stages)).cost := fun href => by
            rw [heq₁ (hgood ref item href known)]
          obtain ⟨hs', heq⟩ := ihtail tail habove hend (hs₁.put hw hv hb hcost)
          refine ⟨hs', fun hg => ?_⟩
          obtain ⟨href, hrest⟩ := List.forall_mem_cons.1 hg
          rw [List.nil_append, hcost href, heq hrest]

end Calculation

end Costing
