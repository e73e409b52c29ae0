import QuoteSearch.Proofs.Query.Filters
import QuoteSearch.Proofs.Store.Run

/-! # Reading a store

A read of a store that is open and has its tables gives what the catalogue gives, as long as the
conditions do not nest too deep. For the conditions of a query this is a matter of the number of
its words.
-/

namespace QuoteSearch.Store

/-- The fault of a read under conditions that nest too deep. -/
def tooDeep : SearchFault := StoreFault.toSearch (.database .conditionsTooDeep)

variable {s : Store} {c : Catalog}

theorem Holds.accessUnder_eq (h : s.Holds c) (table : String) {nesting : Nesting} (hFits : nesting.Fits) :
    s.accessUnder table nesting = .ok c := by
  simp only [accessUnder, h.isOpen, h.access_eq, Bool.true_and, decide_eq_true_eq,
    if_neg (Nat.not_lt.mpr hFits.1), if_neg (Nat.not_lt.mpr hFits.2)]
  rfl

theorem Holds.accessUnder_eq_error (h : s.Holds c) (table : String) {nesting : Nesting}
    (hDeep : ¬ nesting.Fits) : s.accessUnder table nesting = .error (.database .conditionsTooDeep) := by
  simp only [accessUnder, h.isOpen, h.access_eq, Bool.true_and, decide_eq_true_eq]
  by_cases hWritten : Nesting.deepest < nesting.written
  · rw [if_pos hWritten]
    rfl
  · have hResolved : Nesting.deepest < nesting.resolved :=
      Nat.lt_of_not_le fun hResolved => hDeep ⟨Nat.le_of_not_lt hWritten, hResolved⟩
    simp only [if_neg hWritten, if_pos hResolved, bind, Except.bind]
    rfl

theorem Holds.read_eq {α : Type} (h : s.Holds c) (table : String) {nesting : Nesting}
    (hFits : nesting.Fits) {query : Catalog → Selection α} {a : α} (hQuery : query c = .ok a) :
    s.read table nesting query = .ok a := by
  simp only [read, h.accessUnder_eq table hFits, bind, Except.bind, hQuery, Except.mapError]

/-- A read that returns something returns what the catalogue gives. -/
theorem read_eq_ok {α : Type} {table : String} {nesting : Nesting} {query : Catalog → Selection α} {a : α}
    (h : s.read table nesting query = .ok a) : ∃ c, s.Holds c ∧ query c = .ok a := by
  obtain ⟨c, hUnder, hQuery⟩ := exists_of_bind_eq_ok (eq_ok_of_mapError_eq_ok h)
  refine ⟨c, ?_, eq_ok_of_mapError_eq_ok hQuery⟩
  rw [accessUnder] at hUnder
  split at hUnder
  · cases hUnder
  · obtain ⟨c', hAccess, hUnder⟩ := exists_of_bind_eq_ok hUnder
    split at hUnder
    · cases hUnder
    · cases hUnder
      exact access_eq_ok hAccess

theorem Holds.read_eq_error {α : Type} (h : s.Holds c) (table : String) {nesting : Nesting}
    (hDeep : ¬ nesting.Fits) (query : Catalog → Selection α) :
    s.read table nesting query = .error tooDeep := by
  simp only [read, h.accessUnder_eq_error table hDeep, bind, Except.bind, Except.mapError, tooDeep]

/-- Reads of two stores are the same if both take their conditions or both refuse them. -/
theorem Holds.read_congr {α : Type} {s' : Store} {c' : Catalog} (h : s.Holds c) (h' : s'.Holds c') (table : String)
    {nesting nesting' : Nesting} (hTaken : nesting.Fits ↔ nesting'.Fits) {query query' : Catalog → Selection α}
    (hQuery : query c = query' c') : s.read table nesting query = s'.read table nesting' query' := by
  by_cases hFits : nesting.Fits
  · simp only [read, h.accessUnder_eq table hFits, h'.accessUnder_eq table (hTaken.mp hFits), bind, Except.bind, hQuery]
  · rw [h.read_eq_error table hFits, h'.read_eq_error table (mt hTaken.mpr hFits)]

/-- Conditions that do not nest too deep are not looked at before the table is missed. -/
theorem read_eq_error_of_access {α : Type} {table : String} {fault : StoreFault}
    (h : s.access table = .error fault) {nesting : Nesting} (hFits : nesting.Fits)
    (query : Catalog → Selection α) : s.read table nesting query = .error fault.toSearch := by
  have hUnder : s.accessUnder table nesting = .error fault := by
    simp only [accessUnder, h, decide_eq_false (Nat.not_lt.mpr hFits.1), Bool.and_false, Bool.false_eq_true,
      if_false, bind, Except.bind]
  simp only [read, hUnder, bind, Except.bind, Except.mapError]

/-- Whatever goes wrong within the store, it cannot be read. -/
theorem exists_of_read_eq_error {α : Type} {table : String} {nesting : Nesting}
    {query : Catalog → Selection α} {fault : SearchFault} (h : s.read table nesting query = .error fault) :
    ∃ reason, fault = .storeUnavailable reason := by
  rw [read] at h
  generalize (do let c ← s.accessUnder table nesting; (query c).mapError SelectFault.toStore) = result at h
  cases result with
  | ok a => cases h
  | error storeFault => exact ⟨storeFault.message, (Except.error.inj h).symm⟩

theorem exists_holds_or_access_eq_error (s : Store) (table : String) :
    (∃ c, s.Holds c) ∨ ∃ fault, s.access table = .error fault := by
  cases hOpen : s.isOpen with
  | false => exact .inr ⟨.closed, by simp [access, hOpen]⟩
  | true =>
    cases hTables : s.tables with
    | none => exact .inr ⟨.database (.noSuchTable table), by simp [access, hOpen, hTables]⟩
    | some c => exact .inl ⟨c, hOpen, hTables⟩

variable {typed : String} (draw : List QuoteRow → List QuoteRow)

theorem Holds.listVideos_eq_of_fits (h : s.Holds c) {filters : List Filter} (hFits : (Nesting.ofVideos filters).Fits)
    (hCompiles : ∀ f ∈ filters, f.compiles = true) (sort : SortOrder) :
    (s.reads draw).listVideos filters sort = .ok (c.foundVideos filters sort) :=
  h.read_eq videoTable hFits (c.listVideos_eq hCompiles sort)

theorem Holds.listVideos_eq (h : s.Holds c) (hCompiles : (Query.parse typed).compiles = true)
    (hWords : (Query.parse typed).words.length ≤ Query.mostWords) (sort : SortOrder) :
    (s.reads draw).listVideos (Query.parse typed).videoFilters sort =
      .ok (c.foundVideos (Query.parse typed).videoFilters sort) :=
  h.listVideos_eq_of_fits draw (Query.fits_ofVideos hWords) (Query.compiles_videoFilters hCompiles) sort

theorem Holds.listVideos_eq_error_of_deep (h : s.Holds c) {filters : List Filter}
    (hDeep : ¬ (Nesting.ofVideos filters).Fits) (sort : SortOrder) :
    (s.reads draw).listVideos filters sort = .error tooDeep :=
  h.read_eq_error videoTable hDeep _

theorem Holds.listVideos_eq_error (h : s.Holds c) (hTagged : (Query.parse typed).isTagged = true)
    (hWords : Query.mostWords < (Query.parse typed).words.length) (sort : SortOrder) :
    (s.reads draw).listVideos (Query.parse typed).videoFilters sort = .error tooDeep := by
  refine h.listVideos_eq_error_of_deep draw ?_ sort
  rw [Query.videoFilters_of_isTagged hTagged, Query.fits_ofVideos_taggedFilters hTagged]
  exact Nat.not_le.mpr hWords

theorem Holds.listVideosPage_eq (h : s.Holds c) {filters : List Filter} (hFits : (Nesting.ofVideos filters).Fits)
    (hCompiles : ∀ f ∈ filters, f.compiles = true) (sort : SortOrder) (page : Page) :
    (s.reads draw).listVideosPage filters sort page = .ok (page.slice (c.foundVideos filters sort)) := by
  refine h.read_eq videoTable hFits ?_
  rw [c.listVideos_eq hCompiles sort]
  rfl

theorem Holds.countQuotes_eq_of_fits (h : s.Holds c) {filters : List Filter} (hFits : (Nesting.ofQuotes filters).Fits)
    (hCompiles : ∀ f ∈ filters, f.compiles = true) (sort : SortOrder) :
    (s.reads draw).countQuotes filters = .ok (c.foundRows filters sort).length :=
  h.read_eq quoteTable hFits (c.countQuotes_eq hCompiles sort)

theorem Holds.countQuotes_eq (h : s.Holds c) (hCompiles : (Query.parse typed).compiles = true)
    (hWords : (Query.parse typed).words.length ≤ Query.mostWords) (sort : SortOrder) :
    (s.reads draw).countQuotes (Query.parse typed).quoteFilters =
      .ok (c.foundRows (Query.parse typed).quoteFilters sort).length :=
  h.countQuotes_eq_of_fits draw (Query.fits_ofQuotes hWords) (Query.compiles_quoteFilters hCompiles) sort

theorem Holds.listQuotes_eq_of_fits (h : s.Holds c) {filters : List Filter} (hFits : (Nesting.ofQuotes filters).Fits)
    (hCompiles : ∀ f ∈ filters, f.compiles = true) (sort : SortOrder) (page : Page) :
    (s.reads draw).listQuotes filters sort page = .ok (page.slice (c.foundRows filters sort)) := by
  refine h.read_eq quoteTable hFits ?_
  rw [c.listQuotes_eq hCompiles sort]
  rfl

theorem Holds.listQuotes_eq (h : s.Holds c) (hCompiles : (Query.parse typed).compiles = true)
    (hWords : (Query.parse typed).words.length ≤ Query.mostWords) (sort : SortOrder) (page : Page) :
    (s.reads draw).listQuotes (Query.parse typed).quoteFilters sort page =
      .ok (page.slice (c.foundRows (Query.parse typed).quoteFilters sort)) :=
  h.listQuotes_eq_of_fits draw (Query.fits_ofQuotes hWords) (Query.compiles_quoteFilters hCompiles) sort page

theorem fits_none : Nesting.none.Fits := ⟨Nat.zero_le _, Nat.zero_le _⟩

theorem Holds.findVideo_eq (h : s.Holds c) (id : String) :
    (s.reads draw).findVideo id = .ok (c.findVideo id) :=
  h.read_eq videoTable fits_none rfl

theorem Holds.quotesForVideo_eq (h : s.Holds c) (id : String) :
    (s.reads draw).quotesForVideo id = .ok (c.transcript id) :=
  h.read_eq quoteTable fits_none rfl

theorem Holds.countOccurrences_eq (h : s.Holds c) {p : WordPattern} (hFits : p.fits = true) :
    (s.reads draw).countOccurrences p = .ok (c.countOccurrences p) :=
  (if_pos hFits).trans (h.read_eq quoteTable fits_none rfl)

end QuoteSearch.Store
