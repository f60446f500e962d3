import GridChess.Record.Json
import GridChess.Record.Snapshot

/-!
# Registrations

What a registry answers after any registrations. Each name stands for the rule set that it was
registered with last (`get?_registerAll_eq_some_iff`), and the names are listed once each, in
ascending order of their octets (`names_ascending`). So a registry is known by the last registration
of every name: neither the order of registrations of different names nor what was replaced shows
in anything that is looked up or read with it (`last_registration_wins`).
-/

set_option autoImplicit false

namespace GridChess

open GridChess.Text

namespace Registry

/-! ## One registration -/

theorem get?_register_self (registry : Registry) (name : String) (rules : RuleSet) :
    (registry.register name rules).get? name = some rules := by
  simp [get?, register]

theorem get?_register_of_ne (registry : Registry) (name other : String) (rules : RuleSet)
    (differ : name ≠ other) :
    (registry.register name rules).get? other = registry.get? other := by
  have away : ¬decide (name = other) = true := by simpa using differ
  unfold get? register
  simp only [List.find?_cons, away, List.find?_filter]
  congr 2
  funext entry
  by_cases same : entry.1 = other
  · simp [same, Ne.symm differ]
  · simp [same]

/-- No name has two entries. -/
def Unambiguous (registry : Registry) : Prop := (registry.entries.map (·.1)).Nodup

theorem Unambiguous.register (registry : Registry) (unambiguous : registry.Unambiguous)
    (name : String) (rules : RuleSet) : (registry.register name rules).Unambiguous := by
  refine List.nodup_cons.mpr ⟨?_, ?_⟩
  · intro kept
    obtain ⟨entry, member, same⟩ := List.mem_map.mp kept
    exact of_decide_eq_true (List.mem_filter.mp member).2 same
  · exact List.Pairwise.sublist (List.filter_sublist.map _) unambiguous

/-! ## Registrations one after the other -/

/-- A name and the rule set that is registered under it. -/
abbrev Registration := String × RuleSet

/-- Registers in order, the first in an empty registry. -/
def registerAll (calls : List Registration) : Registry :=
  calls.foldl (fun registry call => registry.register call.1 call.2) empty

/-- The last registration of the name is with these rules. -/
def IsLast (calls : List Registration) (name : String) (rules : RuleSet) : Prop :=
  ∃ before after, calls = before ++ (name, rules) :: after ∧ ∀ call ∈ after, call.1 ≠ name

theorem not_isLast_nil (name : String) (rules : RuleSet) : ¬IsLast [] name rules := by
  rintro ⟨before, after, nothing, _⟩
  exact List.append_ne_nil_of_right_ne_nil before (List.cons_ne_nil _ after) nothing.symm

theorem isLast_cons_iff (call : Registration) (rest : List Registration) (name : String)
    (rules : RuleSet) :
    IsLast (call :: rest) name rules ↔
      IsLast rest name rules ∨ call = (name, rules) ∧ ∀ other ∈ rest, other.1 ≠ name := by
  constructor
  · rintro ⟨before, after, split, unused⟩
    cases before with
    | nil =>
      obtain ⟨rfl, rfl⟩ := List.cons.inj split
      exact Or.inr ⟨rfl, unused⟩
    | cons first before => exact Or.inl ⟨before, after, (List.cons.inj split).2, unused⟩
  · rintro (⟨before, after, rfl, unused⟩ | ⟨rfl, unused⟩)
    · exact ⟨call :: before, after, rfl, unused⟩
    · exact ⟨[], rest, rfl, unused⟩

/-- A name that has been registered has a last registration. -/
theorem exists_isLast_iff (calls : List Registration) (name : String) :
    (∃ rules, IsLast calls name rules) ↔ ∃ rules, (name, rules) ∈ calls := by
  induction calls with
  | nil => simp [not_isLast_nil]
  | cons call rest ih =>
    simp only [isLast_cons_iff, exists_or, ih, List.mem_cons]
    constructor
    · rintro (later | ⟨rules, rfl, _⟩)
      · exact Or.inr later
      · exact Or.inl ⟨rules, rfl⟩
    · rintro (⟨rules, rfl⟩ | later)
      · by_cases again : ∃ rules', (name, rules') ∈ rest
        · exact Or.inl again
        · refine Or.inr ⟨rules, rfl, ?_⟩
          rintro ⟨other, rules'⟩ member rfl
          exact again ⟨rules', member⟩
      · exact Or.inl later

/-- What is found after registrations: the last one of the name, or what was there before if the
name is not among them. -/
theorem get?_foldl_eq_some_iff (registry : Registry) (calls : List Registration) (name : String)
    (rules : RuleSet) :
    (calls.foldl (fun registry call => registry.register call.1 call.2) registry).get? name =
        some rules ↔
      IsLast calls name rules ∨
        registry.get? name = some rules ∧ ∀ call ∈ calls, call.1 ≠ name := by
  induction calls generalizing registry with
  | nil => simp [not_isLast_nil]
  | cons call rest ih =>
    obtain ⟨here, registered⟩ := call
    rw [List.foldl_cons, ih, isLast_cons_iff, or_assoc, List.forall_mem_cons]
    by_cases same : here = name
    · subst same
      simp [get?_register_self]
    · simp [get?_register_of_ne registry here name registered same, same]

theorem get?_registerAll_eq_some_iff (calls : List Registration) (name : String)
    (rules : RuleSet) :
    (registerAll calls).get? name = some rules ↔ IsLast calls name rules := by
  have nothing : empty.get? name = none := rfl
  rw [registerAll, get?_foldl_eq_some_iff, nothing]
  simp

theorem unambiguous_registerAll (calls : List Registration) :
    (registerAll calls).Unambiguous := by
  refine List.foldlRecOn calls _ (motive := Unambiguous) List.nodup_nil ?_
  intro registry unambiguous call _
  exact unambiguous.register registry call.1 call.2

/-! ## Answers -/

theorem contains_iff (registry : Registry) (name : String) :
    registry.contains name = true ↔ ∃ rules, registry.get? name = some rules := by
  unfold contains get?
  rw [← Option.isSome_iff_exists, Option.isSome_map, List.find?_isSome, List.any_eq_true]

theorem get_eq_ok_iff (registry : Registry) (name : String) (rules : RuleSet) :
    registry.get name = .ok rules ↔ registry.get? name = some rules := by
  unfold get
  cases registry.get? name with
  | none => simp
  | some found => simp

theorem get_eq_error_iff (registry : Registry) (name : String) (fault : Error) :
    registry.get name = .error fault ↔
      registry.get? name = none ∧ fault = .unknownRuleSet name := by
  unfold get
  cases registry.get? name with
  | none => simp [eq_comm]
  | some found => simp

theorem mem_names_iff (registry : Registry) (name : String) :
    name ∈ registry.names ↔ registry.contains name = true := by
  unfold names contains
  rw [List.mem_mergeSort, List.mem_map, List.any_eq_true]
  simp only [decide_eq_true_eq]

theorem octets_injective (a b : String) (same : octets a = octets b) : a = b := by
  have read := ofOctets?_octets a
  rw [same, ofOctets?_octets] at read
  exact (Option.some.inj read).symm

theorem inOrder_iff (a b : String) : inOrder a b = true ↔ ¬octets b < octets a := by
  unfold inOrder
  rw [Bool.not_eq_true', decide_eq_false_iff_not]

/-- Names are listed in ascending order of their octets. -/
def Ascending (names : List String) : Prop := names.Pairwise fun a b => octets a < octets b

theorem names_ascending (registry : Registry) (unambiguous : registry.Unambiguous) :
    Ascending registry.names := by
  have transitive : ∀ a b c : String, inOrder a b = true → inOrder b c = true →
      inOrder a c = true := by
    intro a b c first second
    rw [inOrder_iff, List.not_lt] at first second ⊢
    exact List.le_trans first second
  have total : ∀ a b : String, (inOrder a b || inOrder b a) = true := by
    intro a b
    rw [Bool.or_eq_true, inOrder_iff, inOrder_iff, List.not_lt, List.not_lt]
    exact List.le_total _ _
  have ordered := List.pairwise_mergeSort transitive total (registry.entries.map (·.1))
  have distinct : registry.names.Nodup := (List.mergeSort_perm _ _).nodup_iff.mpr unambiguous
  refine (ordered.and distinct).imp ?_
  rintro a b ⟨before, differ⟩
  -- In order and not the same is strictly before.
  rw [inOrder_iff, List.not_lt] at before
  exact Decidable.byContradiction fun after =>
    differ (octets_injective a b (List.le_antisymm before (List.not_lt.mp after)))

/-- There is one way to list given names in ascending order. -/
theorem Ascending.unique (first second : List String) (ascending : Ascending first)
    (ascending' : Ascending second) (same : ∀ name, name ∈ first ↔ name ∈ second) :
    first = second := by
  have irreflexive : ∀ a b : String, octets a < octets b → a ≠ b := by
    rintro a _ before rfl
    exact List.lt_irrefl _ before
  refine List.Perm.eq_of_pairwise ?_ ascending ascending' ?_
  · intro a b _ _ before after
    exact absurd (List.lt_trans before after) (List.lt_irrefl _)
  · exact (List.perm_ext_iff_of_nodup (ascending.imp (irreflexive _ _))
      (ascending'.imp (irreflexive _ _))).mpr same

/-! ## Registries with the same answers -/

variable (registry registry' : Registry)
  (same : ∀ name, registry.get? name = registry'.get? name)

include same

theorem contains_congr (name : String) : registry.contains name = registry'.contains name := by
  rw [Bool.eq_iff_iff, contains_iff, contains_iff, same]

theorem get_congr (name : String) : registry.get name = registry'.get name := by
  unfold get
  rw [same]

theorem names_congr (unambiguous : registry.Unambiguous) (unambiguous' : registry'.Unambiguous) :
    registry.names = registry'.names := by
  refine Ascending.unique _ _ (names_ascending _ unambiguous) (names_ascending _ unambiguous') ?_
  intro name
  rw [mem_names_iff, mem_names_iff, contains_congr registry registry' same]

/-- A registry has no part in reading a record but to look up its rule set. -/
theorem resolve_congr (record : MatchRecord) :
    record.resolve registry = record.resolve registry' := by
  unfold MatchRecord.resolve
  rw [get_congr registry registry' same]

theorem ofJson_congr (text : String) :
    Match.ofJson registry text = Match.ofJson registry' text := by
  unfold Match.ofJson
  simp only [resolve_congr registry registry' same]

theorem ofSnapshot_congr (bytes : List UInt8) :
    Match.ofSnapshot registry bytes = Match.ofSnapshot registry' bytes := by
  unfold Match.ofSnapshot
  simp only [resolve_congr registry registry' same]

omit same

/-- A registry that was empty at first and has seen these registrations lists the registered names,
each once and in ascending order of its octets. A name is known, and listed, and found, exactly if
it was registered, and what is found is what it was registered with last; any other name is
reported. Registrations with the same last one of every name give registries with the same answers,
which read the same matches from any text and from any octets. -/
theorem last_registration_wins (calls : List Registration) :
    Ascending (registerAll calls).names ∧
    (∀ name, name ∈ (registerAll calls).names ↔ ∃ rules, (name, rules) ∈ calls) ∧
    (∀ name, name ∈ (registerAll calls).names ↔ (registerAll calls).contains name = true) ∧
    (∀ name, name ∈ (registerAll calls).names ↔
      ∃ rules, (registerAll calls).get name = .ok rules) ∧
    (∀ name rules, (registerAll calls).get name = .ok rules ↔ IsLast calls name rules) ∧
    (∀ name fault, (registerAll calls).get name = .error fault ↔
      (∀ rules, (name, rules) ∉ calls) ∧ fault = .unknownRuleSet name) ∧
    ∀ calls', (∀ name rules, IsLast calls name rules ↔ IsLast calls' name rules) →
      (registerAll calls).names = (registerAll calls').names ∧
      (∀ name, (registerAll calls).contains name = (registerAll calls').contains name) ∧
      (∀ name, (registerAll calls).get name = (registerAll calls').get name) ∧
      (∀ text,
        Match.ofJson (registerAll calls) text = Match.ofJson (registerAll calls') text) ∧
      ∀ bytes,
        Match.ofSnapshot (registerAll calls) bytes =
          Match.ofSnapshot (registerAll calls') bytes := by
  have unambiguous := unambiguous_registerAll
  have listed : ∀ name, name ∈ (registerAll calls).names ↔ ∃ rules, IsLast calls name rules := by
    intro name
    rw [mem_names_iff, contains_iff]
    exact exists_congr (get?_registerAll_eq_some_iff calls name)
  refine ⟨names_ascending _ (unambiguous calls), ?_, mem_names_iff _, ?_, ?_, ?_, ?_⟩
  · intro name
    rw [listed, exists_isLast_iff]
  · intro name
    simp only [listed, get_eq_ok_iff, get?_registerAll_eq_some_iff]
  · intro name rules
    rw [get_eq_ok_iff, get?_registerAll_eq_some_iff]
  · intro name fault
    rw [get_eq_error_iff, ← not_exists, ← exists_isLast_iff, Option.eq_none_iff_forall_ne_some,
      not_exists]
    simp only [ne_eq, get?_registerAll_eq_some_iff]
  · intro calls' lasts
    have same : ∀ name, (registerAll calls).get? name = (registerAll calls').get? name := by
      intro name
      apply Option.ext
      intro rules
      rw [get?_registerAll_eq_some_iff, get?_registerAll_eq_some_iff, lasts]
    exact ⟨names_congr _ _ same (unambiguous calls) (unambiguous calls'), contains_congr _ _ same,
      get_congr _ _ same, ofJson_congr _ _ same, ofSnapshot_congr _ _ same⟩

/-- The rules of the hyper-board are registered as those of the flat board, and then replaced. -/
theorem last_registration_wins_replaced :
    (∀ name rules,
      IsLast [("Boring2D", .hyper), ("Chesseract", .hyper), ("Boring2D", .flat)] name rules ↔
        IsLast [("Boring2D", .flat), ("Chesseract", .hyper)] name rules) ∧
    (registerAll [("Boring2D", .hyper), ("Chesseract", .hyper), ("Boring2D", .flat)]).names =
      (registerAll [("Boring2D", .flat), ("Chesseract", .hyper)]).names ∧
    ∃ rules, (registerAll [("Boring2D", .hyper), ("Chesseract", .hyper),
      ("Boring2D", .flat)]).get "Boring2D" = .ok rules ∧ rules.cells.length = 64 := by
  have lasts : ∀ name rules,
      IsLast [("Boring2D", .hyper), ("Chesseract", .hyper), ("Boring2D", .flat)] name rules ↔
        IsLast [("Boring2D", .flat), ("Chesseract", .hyper)] name rules := by
    intro name rules
    simp only [isLast_cons_iff, not_isLast_nil, List.forall_mem_cons]
    grind
  obtain ⟨_, _, _, _, found, _, answers⟩ :=
    last_registration_wins [("Boring2D", .hyper), ("Chesseract", .hyper), ("Boring2D", .flat)]
  exact ⟨lasts, (answers _ lasts).1, .flat,
    (found "Boring2D" .flat).mpr ⟨[("Boring2D", .hyper), ("Chesseract", .hyper)], [], rfl,
      fun call member => nomatch member⟩, rfl⟩

end Registry

end GridChess
