import Mathlib.Data.List.Basic
import QuoteSearch.Attempt

/-! # Results and entries

Computations that may fail are taken apart and put together step by step, and an entry is found under its
name in a list that has each name once.
-/

namespace QuoteSearch

section Results

variable {ε α β : Type} {x : Except ε α}

theorem exists_of_bind_eq_ok {f : α → Except ε β} {b : β} (h : x >>= f = .ok b) :
    ∃ a, x = .ok a ∧ f a = .ok b := by
  cases x with
  | error fault => cases h
  | ok a => exact ⟨a, rfl, h⟩

theorem exists_of_map_eq_ok {f : α → β} {b : β} (h : x.map f = .ok b) : ∃ a, x = .ok a ∧ f a = b := by
  cases x with
  | error fault => cases h
  | ok a => exact ⟨a, rfl, Except.ok.inj h⟩

theorem eq_ok_of_mapError_eq_ok {ε' : Type} {f : ε → ε'} {a : α} (h : x.mapError f = .ok a) : x = .ok a := by
  cases x with
  | error fault => cases h
  | ok b => exact congrArg Except.ok (Except.ok.inj h)

theorem bind_eq_of_ok {a : α} {f : α → Except ε β} {result : Except ε β} (h : x = .ok a) (hNext : f a = result) :
    (x >>= f) = result := by
  rw [h]
  exact hNext

end Results

namespace Attempt

variable {ε σ α : Type} {a : Attempt ε σ α} {value : α} {state : σ} {fault : ε}

theorem passed_eq_ok_iff : a.passed = .ok (value, state) ↔ a.outcome = .ok value ∧ a.state = state := by
  rw [passed]
  cases a.outcome <;> simp [Except.map]

theorem passed_eq_error_iff : a.passed = .error fault ↔ a.outcome = .error fault := by
  rw [passed]
  cases a.outcome <;> simp [Except.map]

/-- An attempt of which only the state matters. -/
theorem map_snd_passed_eq_ok_iff {a : Attempt ε σ Unit} :
    a.passed.map Prod.snd = .ok state ↔ a.outcome = .ok () ∧ a.state = state := by
  rw [passed]
  cases a.outcome <;> simp [Except.map]

theorem map_snd_passed_eq_error_iff : a.passed.map Prod.snd = .error fault ↔ a.outcome = .error fault := by
  rw [passed]
  cases a.outcome <;> simp [Except.map]

end Attempt

section Entries

variable {β : Type} {before after entries : List (String × β)} {name : String} {b : β}

theorem name_ne_of_nodup (hOnce : ((before ++ (name, b) :: after).map Prod.fst).Nodup) :
    ∀ entry ∈ before, (name != entry.1) = true := by
  intro entry hEntry
  rw [List.map_append, List.map_cons, List.nodup_append] at hOnce
  rw [bne_iff_ne]
  exact (hOnce.2.2 entry.1 (List.mem_map_of_mem hEntry) name List.mem_cons_self).symm

theorem lookup_eq_none_of_nodup (hOnce : ((before ++ (name, b) :: after).map Prod.fst).Nodup) :
    before.lookup name = none :=
  List.lookup_eq_none_iff.mpr (name_ne_of_nodup hOnce)

theorem lookup_eq_some_of_mem (hOnce : (entries.map Prod.fst).Nodup) (h : (name, b) ∈ entries) :
    entries.lookup name = some b := by
  obtain ⟨before, after, rfl⟩ := List.append_of_mem h
  exact List.lookup_eq_some_iff.mpr ⟨before, after, rfl, name_ne_of_nodup hOnce⟩

end Entries

end QuoteSearch
