import QuoteSearch.Proofs.Catalog.WellFormed
import QuoteSearch.Store.Basic

/-! # Runs of a store

A store is changed by calls, each of which succeeds or leaves it as it was. Whatever the calls
are, the catalogue of the store stays well-formed.
-/

namespace QuoteSearch.Store

/-- What changes a store. -/
inductive Call where
  | init
  | upsertVideos (videos : List Video)
  | insertQuotes (videoId : String) (quotes : List NewQuote)
  | close
  | reopen

/-- The store after a call, whether it failed or not. -/
def after (s : Store) : Call → Store
  | .init => s.makeTables.state
  | .upsertVideos videos => (s.writeVideos videos).state
  | .insertQuotes videoId quotes => (s.writeQuotes videoId quotes).state
  | .close => s.close
  | .reopen => s.reopen

def run (s : Store) (calls : List Call) : Store := calls.foldl after s

/-- A store that was just opened. -/
structure IsNew (s : Store) : Prop where
  isOpen : s.isOpen = true
  noTables : s.tables = none

/-- A store that some calls lead to. -/
def Reachable (s : Store) : Prop := ∃ new calls, IsNew new ∧ s = new.run calls

/-- The store can be read and holds the catalogue. -/
structure Holds (s : Store) (c : Catalog) : Prop where
  isOpen : s.isOpen = true
  tables : s.tables = some c

theorem isNew_of_connect {files files' : FileTree} {address : String} {s : Store}
    (h : connect files address = .ok (s, files')) : IsNew s := by
  obtain ⟨hOpened, -⟩ := Attempt.passed_eq_ok_iff.mp h
  rw [openAt] at hOpened
  split at hOpened
  · cases hOpened
  · simp only [] at hOpened
    split at hOpened <;> cases hOpened
    exact ⟨rfl, rfl⟩

theorem init_eq_ok_iff {s s' : Store} : s.init = .ok s' ↔
    s.isOpen = true ∧ s.address.readOnly = false ∧ s' = { s with tables := some (s.tables.getD .empty) } := by
  rw [init, Attempt.map_snd_passed_eq_ok_iff, makeTables]
  cases s.isOpen with
  | false => simp
  | true => cases s.address.readOnly <;> simp [eq_comm]

theorem Holds.access_eq {s : Store} {c : Catalog} (h : s.Holds c) (table : String) : s.access table = .ok c := by
  simp [access, h.isOpen, h.tables]

theorem Holds.withCatalog {s : Store} {c : Catalog} (h : s.Holds c) (c' : Catalog) :
    Holds { s with tables := some c' } c' := ⟨h.isOpen, rfl⟩

theorem Holds.withCatalog_eq {s : Store} {c : Catalog} (h : s.Holds c) : { s with tables := some c } = s := by
  rw [← h.tables]

theorem access_eq_ok {s : Store} {table : String} {c : Catalog} (h : s.access table = .ok c) :
    s.Holds c := by
  rw [access] at h
  split at h
  · cases h
  · rename_i hOpen
    split at h
    · rename_i hTables
      cases h
      exact ⟨by simpa using hOpen, hTables⟩
    · cases h

/-- What a write in a transaction makes of a store: it stays as it is, or gets what was written. -/
inductive Transacted {α : Type} (s : Store) (table : String) (write : Catalog → Attempt StoreFault Catalog α) :
    Attempt StoreFault Store α → Prop where
  | noAccess {fault : StoreFault} (h : s.access table = .error fault) : Transacted s table write ⟨.error fault, s⟩
  | refused {c : Catalog} (hHolds : s.Holds c) (hReadOnly : s.address.readOnly = true) :
    Transacted s table write ⟨.error (.database .readOnly), s⟩
  | takenBack {c : Catalog} {fault : StoreFault} (hHolds : s.Holds c) (hFault : (write c).outcome = .error fault) :
    Transacted s table write ⟨.error fault, s⟩
  | written {c : Catalog} {a : α} (hHolds : s.Holds c) (hWritable : s.address.readOnly = false)
    (hWritten : (write c).outcome = .ok a) :
    Transacted s table write ⟨.ok a, { s with tables := some (write c).state }⟩

theorem transacted_transact {α : Type} (s : Store) (table : String)
    (write : Catalog → Attempt StoreFault Catalog α) : Transacted s table write (s.transact table write) := by
  rw [transact]
  split
  · rename_i hFault
    exact .noAccess hFault
  · rename_i c hAccess
    have hHolds := access_eq_ok hAccess
    split
    · rename_i hReadOnly
      exact .refused hHolds hReadOnly
    · rename_i hWritable
      simp only []
      split
      · rename_i hWritten
        exact .written hHolds (by simpa using hWritable) hWritten
      · rename_i hFault
        rw [hHolds.withCatalog_eq]
        exact .takenBack hHolds hFault

section Transact

variable {α : Type} {s s' : Store} {table : String} {write : Catalog → Attempt StoreFault Catalog α} {a : α}

theorem transact_eq_ok (h : (s.transact table write).passed = .ok (a, s')) :
    ∃ c, s.Holds c ∧ (write c).outcome = .ok a ∧ s' = { s with tables := some (write c).state } := by
  obtain ⟨hOutcome, rfl⟩ := Attempt.passed_eq_ok_iff.mp h
  have hTransacted := s.transacted_transact table write
  generalize s.transact table write = attempt at hTransacted hOutcome ⊢
  cases hTransacted with
  | written hHolds _ hWritten =>
    cases hOutcome
    exact ⟨_, hHolds, hWritten, rfl⟩
  | _ => cases hOutcome

/-- A write that fails leaves the store as it was. -/
theorem state_transact_of_error {fault : StoreFault} (h : (s.transact table write).passed = .error fault) :
    (s.transact table write).state = s := by
  have hOutcome := Attempt.passed_eq_error_iff.mp h
  have hTransacted := s.transacted_transact table write
  generalize s.transact table write = attempt at hTransacted hOutcome ⊢
  cases hTransacted with
  | written => cases hOutcome
  | _ => rfl

theorem Holds.transact_eq {c : Catalog} (h : s.Holds c) (hWritable : s.address.readOnly = false) :
    (s.transact table write).passed =
      (write c).outcome.map fun a => (a, { s with tables := some (write c).state }) := by
  have hTransacted := s.transacted_transact table write
  have hSame : ∀ {c'}, s.Holds c' → c = c' := fun h' => Option.some.inj (h.tables.symm.trans h'.tables)
  generalize s.transact table write = attempt at hTransacted ⊢
  cases hTransacted with
  | noAccess hFault => cases (h.access_eq table).symm.trans hFault
  | refused _ hReadOnly => cases hWritable.symm.trans hReadOnly
  | takenBack hHolds hFault =>
    rw [hSame hHolds, hFault]
    rfl
  | written hHolds _ hWritten =>
    rw [hSame hHolds, hWritten]
    rfl

end Transact

theorem writeVideos_cons (s : Store) (v : Video) (rest : List Video) : s.writeVideos (v :: rest) =
    s.transact videoTable fun c => ⟨.ok (rest.length + 1), c.upsertVideos (v :: rest)⟩ := rfl

theorem writeQuotes_cons (s : Store) (videoId : String) (q : NewQuote) (rest : List NewQuote) :
    s.writeQuotes videoId (q :: rest) = s.transact quoteTable fun c =>
      ⟨((c.insertEach videoId (q :: rest)).outcome.mapError WriteFault.toStore).map fun _ => rest.length + 1,
        (c.insertEach videoId (q :: rest)).state⟩ := rfl

theorem upsertVideos_eq_ok {s s' : Store} {videos : List Video} {n : Nat}
    (h : s.upsertVideos videos = .ok (n, s')) :
    n = videos.length ∧ (videos = [] ∧ s' = s ∨
      ∃ c, s.Holds c ∧ s' = { s with tables := some (c.upsertVideos videos) }) := by
  cases videos with
  | nil =>
    cases h
    exact ⟨rfl, .inl ⟨rfl, rfl⟩⟩
  | cons v rest =>
    rw [upsertVideos, writeVideos_cons] at h
    obtain ⟨c, hHolds, hWritten, hState⟩ := transact_eq_ok h
    exact ⟨(Except.ok.inj hWritten).symm, .inr ⟨c, hHolds, hState⟩⟩

theorem insertQuotes_eq_ok {s s' : Store} {videoId : String} {quotes : List NewQuote} {n : Nat}
    (h : s.insertQuotes videoId quotes = .ok (n, s')) :
    n = quotes.length ∧ (quotes = [] ∧ s' = s ∨ ∃ c c', s.Holds c ∧
      c.insertQuotes videoId quotes = .ok c' ∧ s' = { s with tables := some c' }) := by
  cases quotes with
  | nil =>
    cases h
    exact ⟨rfl, .inl ⟨rfl, rfl⟩⟩
  | cons q rest =>
    rw [insertQuotes, writeQuotes_cons] at h
    obtain ⟨c, hHolds, hWritten, hState⟩ := transact_eq_ok h
    obtain ⟨⟨⟩, hEach, hCount⟩ := exists_of_map_eq_ok hWritten
    have hInserted := Attempt.map_snd_passed_eq_ok_iff.mpr ⟨eq_ok_of_mapError_eq_ok hEach, rfl⟩
    exact ⟨hCount.symm, .inr ⟨c, _, hHolds, hInserted, hState⟩⟩

section After

variable {s s' : Store} {fault : StoreFault} {videos : List Video} {videoId : String} {quotes : List NewQuote} {n : Nat}

theorem after_init_of_ok (h : s.init = .ok s') : s.after .init = s' :=
  (Attempt.map_snd_passed_eq_ok_iff.mp h).2

theorem after_init_of_error (h : s.init = .error fault) : s.after .init = s := by
  have hOutcome := Attempt.map_snd_passed_eq_error_iff.mp h
  rw [after]
  rw [makeTables] at hOutcome ⊢
  split_ifs at hOutcome ⊢ <;> rfl

theorem after_upsertVideos_of_ok (h : s.upsertVideos videos = .ok (n, s')) : s.after (.upsertVideos videos) = s' :=
  (Attempt.passed_eq_ok_iff.mp h).2

theorem after_upsertVideos_of_error (h : s.upsertVideos videos = .error fault) :
    s.after (.upsertVideos videos) = s := by
  cases videos with
  | nil => cases h
  | cons v rest =>
    rw [upsertVideos, writeVideos_cons] at h
    rw [after, writeVideos_cons, state_transact_of_error h]

theorem after_insertQuotes_of_ok (h : s.insertQuotes videoId quotes = .ok (n, s')) :
    s.after (.insertQuotes videoId quotes) = s' :=
  (Attempt.passed_eq_ok_iff.mp h).2

theorem after_insertQuotes_of_error (h : s.insertQuotes videoId quotes = .error fault) :
    s.after (.insertQuotes videoId quotes) = s := by
  cases quotes with
  | nil => cases h
  | cons q rest =>
    rw [insertQuotes, writeQuotes_cons] at h
    rw [after, writeQuotes_cons, state_transact_of_error h]

end After

/-- What a call does to a store. A call that fails or has nothing to write keeps it. -/
inductive Step (s : Store) : Call → Store → Prop where
  | kept (call : Call) : Step s call s
  | init (hWritable : s.address.readOnly = false) :
    Step s .init { s with tables := some (s.tables.getD .empty) }
  | upsertVideos {c : Catalog} (hHolds : s.Holds c) (videos : List Video) :
    Step s (.upsertVideos videos) { s with tables := some (c.upsertVideos videos) }
  | insertQuotes {c c' : Catalog} {videoId : String} {quotes : List NewQuote} (hHolds : s.Holds c)
    (hInsert : c.insertQuotes videoId quotes = .ok c') :
    Step s (.insertQuotes videoId quotes) { s with tables := some c' }
  | close : Step s .close s.close
  | reopen : Step s .reopen s.reopen

theorem step_after (s : Store) (call : Call) : s.Step call (s.after call) := by
  cases call with
  | init =>
    cases hInit : s.init with
    | error fault =>
      rw [after_init_of_error hInit]
      exact .kept _
    | ok s' =>
      obtain ⟨-, hWritable, rfl⟩ := init_eq_ok_iff.mp hInit
      rw [after_init_of_ok hInit]
      exact .init hWritable
  | upsertVideos videos =>
    cases hUpsert : s.upsertVideos videos with
    | error fault =>
      rw [after_upsertVideos_of_error hUpsert]
      exact .kept _
    | ok result =>
      rw [after_upsertVideos_of_ok hUpsert]
      obtain ⟨-, ⟨-, hSame⟩ | ⟨c, hHolds, hNew⟩⟩ := upsertVideos_eq_ok hUpsert
      · exact hSame ▸ .kept _
      · exact hNew ▸ .upsertVideos hHolds videos
  | insertQuotes videoId quotes =>
    cases hInsert : s.insertQuotes videoId quotes with
    | error fault =>
      rw [after_insertQuotes_of_error hInsert]
      exact .kept _
    | ok result =>
      rw [after_insertQuotes_of_ok hInsert]
      obtain ⟨-, ⟨-, hSame⟩ | ⟨c, c', hHolds, hCatalog, hNew⟩⟩ := insertQuotes_eq_ok hInsert
      · exact hSame ▸ .kept _
      · exact hNew ▸ .insertQuotes hHolds hCatalog
  | close => exact .close
  | reopen => exact .reopen

theorem address_after (s : Store) (call : Call) : (s.after call).address = s.address := by
  have hStep := s.step_after call
  generalize s.after call = s' at hStep ⊢
  cases hStep <;> rfl

theorem address_run (s : Store) (calls : List Call) : (s.run calls).address = s.address := by
  induction calls generalizing s with
  | nil => rfl
  | cons call rest ih => exact (ih (s.after call)).trans (s.address_after call)

/-- The catalogue of a store, if it has one, is well-formed. -/
def WellFormed (s : Store) : Prop := ∀ c, s.tables = some c → c.WellFormed

theorem wellFormed_of_tables {s : Store} {c : Catalog} (h : c.WellFormed) :
    WellFormed { s with tables := some c } := by
  intro c' hc'
  cases hc'
  exact h

theorem WellFormed.after {s : Store} (h : s.WellFormed) (call : Call) : (s.after call).WellFormed := by
  have hStep := s.step_after call
  generalize s.after call = s' at hStep ⊢
  cases hStep with
  | kept => exact h
  | init =>
    refine wellFormed_of_tables ?_
    cases hTables : s.tables with
    | none => exact Catalog.wellFormed_empty
    | some c => exact h c hTables
  | upsertVideos hHolds videos => exact wellFormed_of_tables ((h _ hHolds.tables).upsertVideos videos)
  | insertQuotes hHolds hInsert => exact wellFormed_of_tables ((h _ hHolds.tables).insertQuotes hInsert)
  | close => exact h
  | reopen =>
    intro c hc
    rw [reopen] at hc
    split at hc
    · exact h c hc
    · cases hc

theorem WellFormed.run {s : Store} (h : s.WellFormed) (calls : List Call) : (s.run calls).WellFormed := by
  induction calls generalizing s with
  | nil => exact h
  | cons call calls ih => exact ih (h.after call)

theorem Reachable.wellFormed {s : Store} (h : s.Reachable) : s.WellFormed := by
  obtain ⟨new, calls, hNew, rfl⟩ := h
  refine WellFormed.run ?_ calls
  intro c hc
  rw [hNew.noTables] at hc
  cases hc

theorem Reachable.catalog_wellFormed {s : Store} (h : s.Reachable) {c : Catalog} (hc : s.Holds c) :
    c.WellFormed := h.wellFormed c hc.tables

theorem tables_after_eq_none {s : Store} (hReadOnly : s.address.readOnly = true) (h : s.tables = none) (call : Call) :
    (s.after call).tables = none := by
  have hStep := s.step_after call
  generalize s.after call = s' at hStep ⊢
  cases hStep with
  | kept => exact h
  | init hWritable => exact absurd (hReadOnly.symm.trans hWritable) Bool.noConfusion
  | upsertVideos hHolds => exact absurd (h.symm.trans hHolds.tables) (Option.some_ne_none _).symm
  | insertQuotes hHolds => exact absurd (h.symm.trans hHolds.tables) (Option.some_ne_none _).symm
  | close => exact h
  | reopen => rw [reopen, h, ite_self]

theorem tables_run_eq_none {s : Store} (hReadOnly : s.address.readOnly = true) (h : s.tables = none)
    (calls : List Call) : (s.run calls).tables = none := by
  induction calls generalizing s with
  | nil => exact h
  | cons call rest ih => exact ih (by rwa [address_after]) (tables_after_eq_none hReadOnly h call)

/-- Who could make the tables can write them. -/
theorem Reachable.readOnly_eq_false {s : Store} (h : s.Reachable) {c : Catalog} (hc : s.Holds c) :
    s.address.readOnly = false := by
  obtain ⟨new, calls, hNew, rfl⟩ := h
  rw [address_run, ← Bool.not_eq_true]
  intro hReadOnly
  have hNone := tables_run_eq_none hReadOnly hNew.noTables calls
  rw [hc.tables] at hNone
  cases hNone

/-- Two videos with some quotes. -/
def sample : Store :=
  run ⟨⟨.memory, false, none⟩, true, none⟩
    [.init,
      .upsertVideos [⟨"hardcore001", "Minecraft Hardcore", "", ⟨2023, 1, 10, by decide⟩⟩,
        ⟨"legends0001", "League of Legends", "", ⟨2022, 12, 1, by decide⟩⟩],
      .insertQuotes "hardcore001" [⟨65, 67, "a creeper & a"⟩, ⟨0, 2, "Creeper, again"⟩],
      .insertQuotes "legends0001" [⟨5, 7, "<b>a</b> creeper"⟩]]

def sampleCatalog : Catalog := sample.tables.getD .empty

theorem reachable_sample : sample.Reachable := ⟨_, _, ⟨rfl, rfl⟩, rfl⟩

theorem holds_sample : sample.Holds sampleCatalog := ⟨rfl, rfl⟩

end QuoteSearch.Store
