import ExactWord.Export

namespace ExactWord

theorem Operation.mem_all (operation : Operation) : operation ∈ all := by
  cases operation <;> decide

theorem Operation.name_injective {a b : Operation} (same : a.name = b.name) : a = b := by
  cases a <;> cases b <;> simp [name] at same ⊢

theorem Operation.length_name (operation : Operation) : operation.name.toList.length = 3 := by
  cases operation <;> rfl

theorem OperandType.mem_all (t : OperandType) : t ∈ all := by
  cases t <;> decide

theorem OperandType.name_injective {t u : OperandType} (same : t.name = u.name) : t = u := by
  cases t <;> cases u <;> simp [name] at same ⊢

theorem OperandType.symbolName_injective {t u : OperandType} (same : t.symbolName = u.symbolName) : t = u := by
  cases t <;> cases u <;> simp [symbolName, name] at same ⊢

namespace Routine

theorem mem_all (r : Routine) : r ∈ all :=
  List.mem_flatMap.mpr ⟨r.operation, r.operation.mem_all, List.mem_map.mpr ⟨r.type, r.type.mem_all, rfl⟩⟩

/-- The names of operations have one length, so a joined name comes apart in one way only. -/
theorem joined_injective {start left right : String} {a b : Operation}
    (same : start ++ a.name ++ "_" ++ left = start ++ b.name ++ "_" ++ right) : a = b ∧ left = right := by
  have chars := congrArg String.toList same
  simp only [String.toList_append, List.append_assoc] at chars
  have lengths : a.name.toList.length = b.name.toList.length := by rw [a.length_name, b.length_name]
  obtain ⟨names, rest⟩ := List.append_inj (List.append_cancel_left chars) lengths
  have endings := List.append_cancel_left rest
  exact ⟨Operation.name_injective (String.toList_inj.mp names), String.toList_inj.mp endings⟩

theorem name_injective {r s : Routine} (same : r.name = s.name) : r = s := by
  obtain ⟨operations, names⟩ := joined_injective same
  have types := OperandType.name_injective names
  cases r; cases s; cases operations; cases types; rfl

theorem symbol_injective {r s : Routine} (same : r.symbol = s.symbol) : r = s := by
  obtain ⟨operations, names⟩ := joined_injective same
  have types := OperandType.symbolName_injective names
  cases r; cases s; cases operations; cases types; rfl

end Routine

section Lookup

variable {Entry : OperandType → Type} {key : {t : OperandType} → Entry t → String} {label : Routine → String}
  {entry : (r : Routine) → Entry r.type} (keyed : ∀ r, key (entry r) = label r)
  (distinct : ∀ {r s : Routine}, label r = label s → r = s)

include keyed distinct

theorem find?_entry (r : Routine) :
    (Operation.all.map fun operation => entry ⟨operation, r.type⟩).find? (key · == label r) = some (entry r) := by
  obtain ⟨before, after, split, fresh⟩ := List.eq_append_cons_of_mem r.operation.mem_all
  apply List.find?_eq_some_iff_append.mpr
  refine ⟨by simp [keyed], before.map _, after.map _, by rw [split, List.map_append, List.map_cons], ?_⟩
  intro earlier member
  obtain ⟨operation, listed, rfl⟩ := List.mem_map.mp member
  have different : label ⟨operation, r.type⟩ ≠ label r := by
    intro same
    exact fresh (congrArg Routine.operation (distinct same) ▸ listed)
  simp [keyed, different]

theorem find?_entry_of_ne {r : Routine} {t : OperandType} (other : t ≠ r.type) :
    (Operation.all.map fun operation => entry ⟨operation, t⟩).find? (key · == label r) = none := by
  apply List.find?_eq_none.mpr
  intro candidate member
  obtain ⟨operation, -, rfl⟩ := List.mem_map.mp member
  have different : label ⟨operation, t⟩ ≠ label r := by
    intro same
    exact other (congrArg Routine.type (distinct same))
  simp [keyed, different]

theorem findSome?_entry (r : Routine) :
    (OperandType.all.findSome? fun t =>
      ((Operation.all.map fun operation => entry ⟨operation, t⟩).find? (key · == label r)).map (Sigma.mk t)) =
      some ⟨r.type, entry r⟩ := by
  obtain ⟨before, after, split, fresh⟩ := List.eq_append_cons_of_mem r.type.mem_all
  apply List.findSome?_eq_some_iff.mpr
  refine ⟨before, r.type, after, split, by rw [find?_entry keyed distinct]; rfl, ?_⟩
  intro t early
  have other : t ≠ r.type := fun same => fresh (same ▸ early)
  rw [find?_entry_of_ne keyed distinct other]
  rfl

end Lookup

namespace Builtin

def ofRoutine (r : Routine) : Builtin r.type := ⟨r.name, fun build => r.operation.apply build⟩

theorem table_eq (t : OperandType) : table t = Operation.all.map fun operation => ofRoutine ⟨operation, t⟩ := by
  cases t <;> rfl

theorem find?_name (r : Routine) : find? r.name = some ⟨r.type, ofRoutine r⟩ := by
  simp only [find?, ofType?, table_eq]
  exact findSome?_entry (fun _ => rfl) Routine.name_injective r

end Builtin

namespace Export

def ofRoutine (r : Routine) : Export r.type := ⟨r.symbol, Builtin.ofRoutine r⟩

theorem table_eq (t : OperandType) : table t = Operation.all.map fun operation => ofRoutine ⟨operation, t⟩ := by
  cases t <;> rfl

theorem ofType?_symbol (r : Routine) : ofType? r.type r.symbol = some (ofRoutine r) := by
  simp only [ofType?, table_eq]
  exact find?_entry (fun _ => rfl) Routine.symbol_injective r

theorem find?_symbol (r : Routine) : find? r.symbol = some ⟨r.type, ofRoutine r⟩ := by
  simp only [find?, ofType?, table_eq]
  exact findSome?_entry (fun _ => rfl) Routine.symbol_injective r

end Export

end ExactWord
