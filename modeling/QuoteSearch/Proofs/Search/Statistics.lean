import QuoteSearch.Proofs.Catalog.Count
import QuoteSearch.Proofs.Search.Answer

/-! # Word statistics

The counts of the groups by name, where the last group of a name counts, and what a count says of
the quotes.
-/

namespace QuoteSearch

open Store SearchService WordPattern

namespace WordPattern

/-- All of the words are blank or the pattern for any of them is not too large. -/
def canCount (words : List String) : Bool := (anyOf? words).all fits

theorem canCount_append_of_blank {w : String} (h : Text.trim w = "") (words : List String) :
    canCount (words ++ [w]) = canCount words := by
  rw [canCount, anyOf?_eq, members_append_of_blank h, ← anyOf?_eq, canCount]

theorem fits_word_of_canCount {words : List String} (h : canCount words = true) {w : String}
    (hw : w ∈ members words) : (word w).fits = true := by
  rw [canCount, anyOf?_eq, if_neg (List.ne_nil_of_mem hw)] at h
  exact fits_word_of_anyOf hw h

end WordPattern

/-- The counts are sorted by name, and each is the count of the last group of its name. -/
structure CountsOf (service : SearchService) (groups : List WordGroup) (counts : List (String × Nat)) :
    Prop where
  sorted : counts.Pairwise fun a b => a.1 < b.1
  names : ∀ name, name ∈ counts.map Prod.fst ↔ name ∈ groups.map WordGroup.name
  last : ∀ name n, (name, n) ∈ counts → ∃ earlier group later, groups = earlier ++ group :: later ∧
    group.name = name ∧ name ∉ later.map WordGroup.name ∧ service.countGroup group.words = .ok n

/-- What the count of some words says of the quotes. -/
structure Brackets (service : SearchService) (quotes : List Quote) (words : List String) (n : Nat) :
    Prop where
  zero : n = 0 ↔ ∀ q ∈ quotes, ∀ w ∈ members words, (word w).occursIn q.content = false
  atLeast : quotes.countP (fun q => (members words).any fun w => (word w).occursIn q.content) ≤ n
  atMost : ∃ count : String → Nat,
    (∀ w ∈ members words, service.reads.countOccurrences (.word w) = .ok (count w)) ∧
    n ≤ ((members words).map count).sum
  single : ∀ w, members words = [w] → service.reads.countOccurrences (.word w) = .ok n
  blank : ∀ w, Text.trim w = "" → service.countGroup (words ++ [w]) = .ok n
  cased : ∀ member ∈ members words, ∀ w, (Text.trim w).toLower = member.toLower →
    canCount (words ++ [w]) = true → service.countGroup (words ++ [w]) = .ok n

namespace SearchService

variable {name : String} {n : Nat} {counts : List (String × Nat)}

theorem mem_putCount (h : counts.Pairwise fun a b => a.1 < b.1) {entry : String × Nat} :
    entry ∈ putCount name n counts ↔ entry = (name, n) ∨ entry ∈ counts ∧ entry.1 ≠ name := by
  induction counts with
  | nil => simp [putCount]
  | cons head rest ih =>
    obtain ⟨headName, headCount⟩ := head
    obtain ⟨hHead, hRest⟩ := List.pairwise_cons.mp h
    have hBehind : name ≤ headName → entry ∈ rest → entry.1 ≠ name := by
      rintro hLe hEntry rfl
      exact String.not_lt.mpr hLe (hHead entry hEntry)
    rw [putCount, List.mem_cons]
    split
    · rename_i hBefore
      have hOther : headName ≠ name := fun hSame => String.lt_irrefl _ (hSame ▸ hBefore)
      have hLe : name ≤ headName := Std.le_of_lt hBefore
      grind
    · rename_i hNotBefore
      split
      · rename_i hSame
        have hLe : name ≤ headName := hSame ▸ String.le_refl name
        grind
      · grind

theorem pairwise_putCount (h : counts.Pairwise fun a b => a.1 < b.1) :
    (putCount name n counts).Pairwise fun a b => a.1 < b.1 := by
  induction counts with
  | nil => simp [putCount]
  | cons head rest ih =>
    obtain ⟨headName, headCount⟩ := head
    obtain ⟨hHead, hRest⟩ := List.pairwise_cons.mp h
    rw [putCount]
    split
    · rename_i hBefore
      refine List.pairwise_cons.mpr ⟨?_, h⟩
      intro entry hEntry
      rcases List.mem_cons.mp hEntry with rfl | hEntry
      · exact hBefore
      · exact String.lt_trans hBefore (hHead entry hEntry)
    · rename_i hNotBefore
      split
      · rename_i hSame
        subst hSame
        exact List.pairwise_cons.mpr ⟨hHead, hRest⟩
      · rename_i hOther
        refine List.pairwise_cons.mpr ⟨?_, ih hRest⟩
        intro entry hEntry
        rcases (mem_putCount hRest).mp hEntry with rfl | ⟨hEntry, -⟩
        · exact Std.lt_of_le_of_ne (String.not_lt.mp hNotBefore) (Ne.symm hOther)
        · exact hHead entry hEntry

end SearchService

namespace CountsOf

variable {service : SearchService} {done todo : List WordGroup} {counts stats : List (String × Nat)}

theorem empty (service : SearchService) : CountsOf service [] [] where
  sorted := .nil
  names _ := Iff.rfl
  last _ _ h := absurd h List.not_mem_nil

/-- A count replaces the one of an earlier group of its name. -/
theorem put {group : WordGroup} {n : Nat} (h : CountsOf service done counts)
    (hCount : service.countGroup group.words = .ok n) :
    CountsOf service (done ++ [group]) (putCount group.name n counts) := by
  refine ⟨pairwise_putCount h.sorted, fun name => ?_, fun name k hEntry => ?_⟩
  · rw [List.map_append, List.map_singleton, List.mem_append, List.mem_singleton, ← h.names,
      List.mem_map, List.mem_map]
    constructor
    · rintro ⟨entry, hEntry, rfl⟩
      rcases (mem_putCount h.sorted).mp hEntry with rfl | ⟨hEntry, -⟩
      · exact .inr rfl
      · exact .inl ⟨entry, hEntry, rfl⟩
    · intro hName
      by_cases hSame : name = group.name
      · exact ⟨(group.name, n), (mem_putCount h.sorted).mpr (.inl rfl), hSame.symm⟩
      · obtain ⟨entry, hEntry, rfl⟩ := hName.resolve_right hSame
        exact ⟨entry, (mem_putCount h.sorted).mpr (.inr ⟨hEntry, hSame⟩), rfl⟩
  · rcases (mem_putCount h.sorted).mp hEntry with hNew | ⟨hOld, hOther⟩
    · cases hNew
      exact ⟨done, group, [], rfl, rfl, List.not_mem_nil, hCount⟩
    · obtain ⟨earlier, last, later, rfl, hLast, hLater, hOwn⟩ := h.last name k hOld
      refine ⟨earlier, last, later ++ [group], by simp, hLast, ?_, hOwn⟩
      rw [List.map_append, List.mem_append, List.map_singleton, List.mem_singleton, not_or]
      exact ⟨hLater, hOther⟩

/-- The run over the groups that are left. -/
theorem countGroups (h : CountsOf service done counts)
    (hTodo : ∀ group ∈ todo, ∃ n, service.countGroup group.words = .ok n) :
    ∃ stats, SearchService.countGroups counts
        (todo.map fun group => (group.name, service.countGroup group.words)) = .ok stats ∧
      CountsOf service (done ++ todo) stats := by
  induction todo generalizing done counts with
  | nil => exact ⟨counts, rfl, (List.append_nil done).symm ▸ h⟩
  | cons group rest ih =>
    obtain ⟨n, hCount⟩ := hTodo group List.mem_cons_self
    obtain ⟨stats, hStats, hOf⟩ := ih (h.put hCount) fun g hg => hTodo g (List.mem_cons_of_mem group hg)
    refine ⟨stats, ?_, ?_⟩
    · simp only [List.map_cons, SearchService.countGroups, hCount, bind, Except.bind, hStats]
    · rwa [List.append_assoc, List.singleton_append] at hOf

end CountsOf

namespace SearchService

variable {s : Store} {c : Catalog} {settings : SearchSettings} {service : SearchService}
  {draw : List QuoteRow → List QuoteRow} {words : List String}

theorem countGroup_eq (hHolds : s.Holds c)
    (hService : ofSettings (s.reads draw) settings = .ok service) (hWords : canCount words = true) :
    service.countGroup words = .ok (c.countWords words) := by
  obtain ⟨hReads, -⟩ := ofSettings_eq_ok hService
  rw [canCount] at hWords
  rw [countGroup, Catalog.countWords, hReads]
  cases hPattern : anyOf? words with
  | none => rfl
  | some p =>
    rw [hPattern] at hWords
    exact hHolds.countOccurrences_eq draw hWords

theorem brackets_countWords (hHolds : s.Holds c)
    (hService : ofSettings (s.reads draw) settings = .ok service) (hWords : canCount words = true) :
    Brackets service c.quotes words (c.countWords words) := by
  obtain ⟨hReads, -⟩ := ofSettings_eq_ok hService
  have hMember : ∀ w ∈ members words,
      service.reads.countOccurrences (.word w) = .ok (c.countOccurrences (.word w)) := by
    intro w hw
    rw [hReads]
    exact hHolds.countOccurrences_eq draw (fits_word_of_canCount hWords hw)
  refine ⟨c.countWords_eq_zero_iff, c.countP_le_countWords, ⟨_, hMember, c.countWords_le_sum⟩, ?_, ?_, ?_⟩
  · intro w hw
    rw [c.countWords_of_singleton hw]
    exact hMember w (hw ▸ List.mem_singleton_self w)
  · intro w hw
    rw [← c.countWords_append_of_blank hw]
    exact countGroup_eq hHolds hService ((canCount_append_of_blank hw words).trans hWords)
  · intro member hIn w hw hAppended
    rw [← c.countWords_append_of_toLower hIn hw]
    exact countGroup_eq hHolds hService hAppended

end SearchService

/-- Word statistics lie between the quotes that are found and the matches that each word has. -/
theorem word_stats_bracket_matches {s : Store} {c : Catalog} (hHolds : s.Holds c)
    {draw : List QuoteRow → List QuoteRow} {settings : SearchSettings} {service : SearchService}
    (hService : ofSettings (s.reads draw) settings = .ok service)
    (hGroups : ∀ group ∈ settings.wordGroups, canCount group.words = true) :
    (∃ stats, service.wordStats = .ok stats ∧ CountsOf service settings.wordGroups stats) ∧
      ∀ words, canCount words = true →
        ∃ n, service.countGroup words = .ok n ∧ Brackets service c.quotes words n := by
  obtain ⟨-, rfl⟩ := ofSettings_eq_ok hService
  refine ⟨(CountsOf.empty service).countGroups fun group hGroup => ?_, fun words hWords => ?_⟩
  · exact ⟨_, countGroup_eq hHolds hService (hGroups group hGroup)⟩
  · exact ⟨_, countGroup_eq hHolds hService hWords, brackets_countWords hHolds hService hWords⟩

/-- Groups of which two have one name. -/
def groupedSettings : SearchSettings :=
  ⟨1, 24, 10, [⟨"mob", ["zombie"]⟩, ⟨"article", [" a", "A ", ""]⟩, ⟨"mob", ["Creeper", "creeper, again"]⟩]⟩

def SearchService.grouped : SearchService :=
  ⟨Store.sample.reads id, groupedSettings, by decide, by decide⟩

theorem SearchService.ofSettings_grouped :
    ofSettings (Store.sample.reads id) groupedSettings = .ok grouped := rfl

theorem sample_word_stats_bracket_matches :
    Store.sample.Holds sampleCatalog ∧
      ofSettings (Store.sample.reads id) groupedSettings = .ok grouped ∧
      (∀ group ∈ groupedSettings.wordGroups, canCount group.words = true) ∧
      grouped.wordStats = .ok [("article", 3), ("mob", 3)] ∧
      CountsOf grouped groupedSettings.wordGroups [("article", 3), ("mob", 3)] ∧
      ∃ n, grouped.countGroup ["Creeper", "creeper, again"] = .ok n ∧
        Brackets grouped sampleCatalog.quotes ["Creeper", "creeper, again"] n := by
  have hGroups : ∀ group ∈ groupedSettings.wordGroups, canCount group.words = true := by decide
  have hValue : grouped.wordStats = .ok [("article", 3), ("mob", 3)] := by decide +kernel
  obtain ⟨⟨stats, hStats, hOf⟩, hBrackets⟩ :=
    word_stats_bracket_matches holds_sample ofSettings_grouped hGroups
  cases hStats.symm.trans hValue
  exact ⟨holds_sample, ofSettings_grouped, hGroups, hValue, hOf, hBrackets _ (by decide)⟩

end QuoteSearch
