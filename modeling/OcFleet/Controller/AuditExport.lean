import OcFleet.Controller.StampTexts

/-!
The export of a window of the audit log. The window is checked as two instants, and its
rows are then selected by comparing texts. The texts of the export's own errors are held
like those of the store. What a line shows of its row is left to a
parameter; a line is kept together with the row it was made of.
-/

namespace OcFleet.Controller.AuditExport

open Foundation

section

structure AuditRecord where
  id : Nat
  event : AuditEvent

structure AuditExportOptions where
  windowFrom : String
  windowTo : String
  maxRows : Nat

def maxAuditExportRows : Nat := 100000

def maxAuditExportRecordBytes : Nat := 16 * 1024

def maxAuditExportBytes : Nat := 64 * 1024 * 1024

/-- Nanoseconds of 31 days. -/
def maxAuditExportWindow : Int := 31 * 86400 * 1000000000

variable (env : StoreEnv) (payload : AuditRecord → Json)

def validateMaxRows (maxRows : Nat) : Except StoreError Unit :=
  require (!(maxRows == 0 || decide (maxAuditExportRows < maxRows)))
    (.invalidInput "--max-rows must be between 1 and 100000")

def validateWindow (windowFrom windowTo : String) : Except StoreError (Int × Int) := do
  let first ← orElseError (env.parseRfc3339 windowFrom) (.invalidInput "--from must be RFC3339")
  let last ← orElseError (env.parseRfc3339 windowTo) (.invalidInput "--to must be RFC3339")
  require (!decide (last ≤ first)) (.invalidInput "--from must be before --to")
  require (!decide (maxAuditExportWindow < last - first))
    (.invalidInput "audit export window must be at most 31 days")
  return (first, last)

/-- `ts >= ?1 AND ts < ?2`. -/
def selectedByText (options : AuditExportOptions) (row : AuditRecord) : Bool :=
  !textLt row.event.ts options.windowFrom && textLt row.event.ts options.windowTo

/-- `ORDER BY ts ASC, id ASC`. -/
def auditBefore (a b : AuditRecord) : Bool :=
  textLt a.event.ts b.event.ts || (a.event.ts == b.event.ts && decide (a.id ≤ b.id))

def listAuditWindow (log : List AuditRecord) (options : AuditExportOptions) (limit : Nat) :
    List AuditRecord :=
  ((log.filter (selectedByText options)).mergeSort auditBefore).take limit

def buildJsonlLine (row : AuditRecord) : Except StoreError (AuditRecord × String) := do
  let line := (payload row).render
  require (!decide (maxAuditExportRecordBytes < byteLen line))
    (.invalidInput "audit export row exceeds byte limit")
  return (row, line ++ "\n")

def totalBytes (lines : List (AuditRecord × String)) : Nat :=
  (lines.map (fun line => byteLen line.2)).sum

/-- Writing the file can only fail after this. -/
def runAuditExportInner (log : List AuditRecord) (options : AuditExportOptions) :
    Except StoreError (List (AuditRecord × String)) := do
  validateMaxRows options.maxRows
  let _ ← validateWindow env options.windowFrom options.windowTo
  let rows := listAuditWindow log options (options.maxRows + 1)
  require (!decide (options.maxRows < rows.length))
    (.invalidInput "audit export row count exceeds --max-rows")
  let lines ← rows.mapM (buildJsonlLine payload)
  require (!decide (maxAuditExportBytes < totalBytes lines))
    (.invalidInput "audit export output exceeds byte limit")
  return lines

/-- The instant of a row lies in the window. -/
def inWindow (first last : Int) (row : AuditRecord) : Bool :=
  (env.parseRfc3339 row.event.ts).any (fun t => decide (first ≤ t) && decide (t < last))

/-- The exported rows are those of the window, each once. -/
def ExportsWindow (log : List AuditRecord) (options : AuditExportOptions)
    (exported : List (AuditRecord × String)) : Prop :=
  ∀ first last, env.parseRfc3339 options.windowFrom = some first →
    env.parseRfc3339 options.windowTo = some last →
      (exported.map Prod.fst).Perm (log.filter (inWindow env first last))

variable {env payload}

theorem buildJsonlLine_row {row : AuditRecord} {line : AuditRecord × String}
    (h : buildJsonlLine payload row = .ok line) : line.1 = row := by
  simp only [buildJsonlLine, bind_eq_ok_iff, pure_eq_ok_iff] at h
  obtain ⟨_, _, rfl⟩ := h
  rfl

theorem buildJsonlLines_rows {rows : List AuditRecord} {lines : List (AuditRecord × String)}
    (h : rows.mapM (buildJsonlLine payload) = .ok lines) : lines.map Prod.fst = rows := by
  induction rows generalizing lines with
  | nil =>
    cases h
    rfl
  | cons row rows ih =>
    simp only [List.mapM_cons, bind_eq_ok_iff, pure_eq_ok_iff] at h
    obtain ⟨line, hLine, rest, hRest, rfl⟩ := h
    rw [List.map_cons, buildJsonlLine_row hLine, ih hRest]

/-- An export that succeeds has not cut anything off. -/
theorem runAuditExportInner_rows {log : List AuditRecord} {options : AuditExportOptions}
    {exported : List (AuditRecord × String)}
    (h : runAuditExportInner env payload log options = .ok exported) :
    (exported.map Prod.fst).Perm (log.filter (selectedByText options)) := by
  simp only [runAuditExportInner, bind_eq_ok_iff, require_eq_ok_iff, pure_eq_ok_iff] at h
  obtain ⟨_, _, _, _, _, hCount, lines, hLines, _, _, rfl⟩ := h
  rw [buildJsonlLines_rows hLines]
  simp only [listAuditWindow, List.length_take, Bool.not_eq_true', decide_eq_false_iff_not]
    at hCount ⊢
  rw [List.take_of_length_le (by omega)]
  exact List.mergeSort_perm _ _

theorem runAuditExportInner_order {log : List AuditRecord} {options : AuditExportOptions}
    {exported : List (AuditRecord × String)} {first last : Stamp}
    (hFirst : first.ReadBy env.parseRfc3339 options.windowFrom)
    (hLast : last.ReadBy env.parseRfc3339 options.windowTo)
    (h : runAuditExportInner env payload log options = .ok exported) :
    first.instant < last.instant := by
  simp only [runAuditExportInner, validateWindow, hFirst.read, hLast.read, bind_eq_ok_iff,
    orElseError_eq_ok_iff, require_eq_ok_iff] at h
  obtain ⟨_, _, _, ⟨_, hA, _, hB, _, hOrder, _⟩, _⟩ := h
  cases hA
  cases hB
  simpa using hOrder

theorem filter_perm_filter_iff {α : Type} {p q : α → Bool} {xs : List α} :
    (xs.filter p).Perm (xs.filter q) ↔ ∀ x ∈ xs, p x = q x := by
  constructor
  · intro h x hx
    have hMem := h.mem_iff (a := x)
    simp only [List.mem_filter, hx, true_and] at hMem
    exact Bool.eq_iff_iff.mpr hMem
  · intro h
    rw [List.filter_congr h]

/-- The two comparisons of a row with the ends of a window are right together exactly when
its stamp is clear of the window. -/
theorem selected_iff {options : AuditExportOptions} {row : AuditRecord} {first last stamp : Stamp}
    (hFirst : first.ReadBy env.parseRfc3339 options.windowFrom)
    (hLast : last.ReadBy env.parseRfc3339 options.windowTo)
    (hOrder : first.instant < last.instant)
    (hRow : stamp.ReadBy env.parseRfc3339 row.event.ts) (hUtc : stamp.Utc) :
    selectedByText options row = inWindow env first.instant last.instant row ↔
      ClearOfWindow first last stamp := by
  rw [selectedByText, inWindow, hRow.read, Option.any_some]
  exact textWindow_iff hFirst hLast hOrder hRow hUtc

def exampleEnv : StoreEnv where
  parseRfc3339 := fun text =>
    if text = "2026-01-01T00:00:00Z" then some 1767225600000000000
    else if text = "2026-01-01T00:00:00.5Z" then some 1767225600500000000
    else if text = "2026-01-01T00:00:01Z" then some 1767225601000000000
    else none
  endpointIdText := some
  uuidParses := fun _ => true
  blake3Hex := id

/-- The first second of the year. -/
def exampleWindow : AuditExportOptions := ⟨"2026-01-01T00:00:00Z", "2026-01-01T00:00:01Z", 10⟩

def exampleRecord (ts : String) : AuditRecord := ⟨1, AuditEvent.new ts "operator" "node.add"⟩

theorem example_selected :
    selectedByText exampleWindow (exampleRecord "2026-01-01T00:00:00.5Z") = false ∧
    selectedByText exampleWindow (exampleRecord "2026-01-01T00:00:00Z") = true := by
  decide +kernel

theorem exampleWindow_valid : validateMaxRows exampleWindow.maxRows = .ok () ∧
    validateWindow exampleEnv exampleWindow.windowFrom exampleWindow.windowTo =
      .ok (1767225600000000000, 1767225601000000000) := by
  decide +kernel

/-- A second of the beginning of the year. -/
def newYear (second : Fin 60) : Stamp where
  civil := ⟨2026, 1, 1, 0, 0, second, by decide, by decide, by decide, by simp⟩
  fraction := []
  zone := .utc

theorem newYear_read : (newYear 0).ReadBy exampleEnv.parseRfc3339 "2026-01-01T00:00:00Z" ∧
    (newYear 1).ReadBy exampleEnv.parseRfc3339 "2026-01-01T00:00:01Z" :=
  ⟨⟨by decide +kernel, by decide +kernel⟩, ⟨by decide +kernel, by decide +kernel⟩⟩

end

end OcFleet.Controller.AuditExport
