import OcFleet.Controller.ObservationProjection
import OcFleet.Controller.StoredJson

/-!
What a reader of an observation is shown at most. The projection pays for the members of a
container before it opens any of them, and for every text that it keeps, so that the budget
bounds what comes out, whatever goes in.
-/

namespace OcFleet.Controller

open Foundation

mutual

/-- The bytes of the texts in a value, the marker of a redaction not counted. -/
def retainedBytes : Json → Nat
  | .string text => if text = "<redacted>" then 0 else byteLen text
  | .object members => membersBytes members
  | .array items => itemsBytes items
  | _ => 0

def membersBytes : List (String × Json) → Nat
  | [] => 0
  | (_, value) :: rest => retainedBytes value + membersBytes rest

def itemsBytes : List Json → Nat
  | [] => 0
  | value :: rest => retainedBytes value + itemsBytes rest

end

def permittedKey (key : String) : Bool := decide (byteLen key ≤ 64) && !forbiddenSummaryKey key

/-- The names of an object are permitted, and a text is not forbidden. -/
def ShowableNode : Json → Prop
  | .object members => ∀ member ∈ members, permittedKey member.1 = true
  | .string text => forbiddenSummaryValue text = false
  | _ => True

def plainScalar : Json → Bool
  | .null | .bool _ | .number _ => true
  | _ => false

/-- Everything in a value may be shown, and nothing in it is nested deeper than the levels. -/
def ShownWithin (levels : Nat) (value : Json) : Prop :=
  ∀ depth key depth' key' inner, Occurs depth key value depth' key' inner →
    depth' ≤ depth + levels ∧ ShowableNode inner

structure ShownSafely (value : Json) : Prop where
  entries : entryCount value ≤ 256
  bytes : retainedBytes value ≤ 4096
  nodes : ShownWithin 8 value

/-- What is shown is paid for from the budget. -/
structure Projected (levels : Nat) (budget : ProjectionBudget) (result : Json × ProjectionBudget) :
    Prop where
  entries : entryCount result.1 + result.2.entriesRemaining ≤ budget.entriesRemaining
  bytes : retainedBytes result.1 + result.2.stringBytesRemaining ≤ budget.stringBytesRemaining
  nodes : ShownWithin levels result.1

section

variable {levels : Nat}

theorem ShownWithin.leaf {value : Json} (hNode : ShowableNode value)
    (hObject : ∀ members, value ≠ .object members) (hArray : ∀ items, value ≠ .array items) :
    ShownWithin levels value := by
  intro depth key depth' key' inner hOccurs
  cases hOccurs with
  | here => exact ⟨Nat.le_add_right _ _, hNode⟩
  | member mem inner => exact absurd rfl (hObject _)
  | item mem inner => exact absurd rfl (hArray _)

theorem ShownWithin.object {members : List (String × Json)}
    (hNames : ∀ member ∈ members, permittedKey member.1 = true)
    (hValues : ∀ member ∈ members, ShownWithin levels member.2) :
    ShownWithin (levels + 1) (.object members) := by
  intro depth key depth' key' inner hOccurs
  cases hOccurs with
  | here => exact ⟨Nat.le_add_right _ _, hNames⟩
  | member mem hInner =>
    obtain ⟨hDepth, hNode⟩ := hValues _ mem _ _ _ _ _ hInner
    exact ⟨by omega, hNode⟩

theorem ShownWithin.array {items : List Json} (hItems : ∀ item ∈ items, ShownWithin levels item) :
    ShownWithin (levels + 1) (.array items) := by
  intro depth key depth' key' inner hOccurs
  cases hOccurs with
  | here => exact ⟨Nat.le_add_right _ _, trivial⟩
  | item mem hInner =>
    obtain ⟨hDepth, hNode⟩ := hItems _ mem _ _ _ _ _ hInner
    exact ⟨by omega, hNode⟩

theorem redacted_projected (budget : ProjectionBudget) :
    Projected levels budget (redacted, budget) :=
  ⟨by simp [redacted, entryCount], by simp [redacted, retainedBytes],
    .leaf (show forbiddenSummaryValue "<redacted>" = false by decide) nofun nofun⟩

end

section

variable {project : Json → ProjectionBudget → Json × ProjectionBudget} {levels : Nat}

theorem zip_totals (names : List String) (values : List Json)
    (h : names.length = values.length) :
    countMembers (names.zip values) = countItems values ∧
      membersBytes (names.zip values) = itemsBytes values := by
  induction names generalizing values with
  | nil =>
    cases List.length_eq_zero_iff.mp h.symm
    exact ⟨rfl, rfl⟩
  | cons name names ih =>
    cases values with
    | nil => cases h
    | cons value values =>
      obtain ⟨hCount, hBytes⟩ := ih values (Nat.succ.inj h)
      simp [countMembers, countItems, membersBytes, itemsBytes, hCount, hBytes]

/-- The items of a container are paid for beforehand. -/
theorem projectItems_projected
    (hProject : ∀ value budget, Projected levels budget (project value budget))
    (budget : ProjectionBudget) (items : List Json) :
    let result := projectItems project budget items
    result.1.length = items.length ∧
      countItems result.1 + result.2.entriesRemaining ≤ budget.entriesRemaining + items.length ∧
      itemsBytes result.1 + result.2.stringBytesRemaining ≤ budget.stringBytesRemaining ∧
      ∀ shown ∈ result.1, ShownWithin levels shown := by
  induction items generalizing budget with
  | nil => simp [projectItems, countItems, itemsBytes]
  | cons item items ih =>
    have hItem := hProject item budget
    obtain ⟨hLength, hCount, hBytes, hShown⟩ := ih (project item budget).2
    refine ⟨by simp [projectItems, hLength], ?_, ?_, ?_⟩
    · have hEntries := hItem.entries
      simp only [projectItems, countItems, List.length_cons]
      omega
    · have hItemBytes := hItem.bytes
      simp only [projectItems, itemsBytes]
      omega
    · exact List.forall_mem_cons.mpr ⟨hItem.nodes, hShown⟩

theorem members_projected
    (hProject : ∀ value budget, Projected levels budget (project value budget))
    (budget : ProjectionBudget) {members : List (String × Json)}
    (hNames : ∀ member ∈ members, permittedKey member.1 = true)
    (hFew : members.length ≤ budget.entriesRemaining) :
    let result := projectItems project
      { budget with entriesRemaining := budget.entriesRemaining - members.length }
      (members.map Prod.snd)
    Projected (levels + 1) budget (.object ((members.map Prod.fst).zip result.1), result.2) := by
  intro result
  obtain ⟨hLength, hCount, hBytes, hShown⟩ := projectItems_projected hProject
    { budget with entriesRemaining := budget.entriesRemaining - members.length }
    (members.map Prod.snd)
  rw [List.length_map] at hLength hCount
  change countItems result.1 + result.2.entriesRemaining ≤
    budget.entriesRemaining - members.length + members.length at hCount
  obtain ⟨hEntries, hSize⟩ := zip_totals (members.map Prod.fst) result.1
    ((List.length_map _).trans hLength.symm)
  refine ⟨?_, ?_, .object ?_ ?_⟩
  · simp only [entryCount, hEntries]
    omega
  · simp only [retainedBytes, hSize]
    exact hBytes
  · intro member hMember
    obtain ⟨named, hNamed, hName⟩ := List.mem_map.mp (List.of_mem_zip hMember).1
    rw [← hName]
    exact hNames named hNamed
  · exact fun member hMember => hShown _ (List.of_mem_zip hMember).2

theorem safeObservationSummaryInner_projected (levels : Nat) (value : Json)
    (budget : ProjectionBudget) :
    Projected levels budget (safeObservationSummaryInner levels value budget) := by
  induction levels generalizing value budget with
  | zero =>
    rw [safeObservationSummaryInner]
    exact redacted_projected budget
  | succ levels ih =>
    cases value with
    | null | bool _ | number _ =>
      exact ⟨by simp [safeObservationSummaryInner, entryCount],
        by simp [safeObservationSummaryInner, retainedBytes], .leaf trivial nofun nofun⟩
    | string text =>
      simp only [safeObservationSummaryInner]
      split
      · exact redacted_projected budget
      · rename_i hKeep
        simp only [Bool.or_eq_true, decide_eq_true_eq, not_or, Nat.not_lt,
          Bool.not_eq_true] at hKeep
        refine ⟨by simp [entryCount], ?_, .leaf hKeep.2 nofun nofun⟩
        have hPaid := hKeep.1.1.2
        simp only [retainedBytes]
        split <;> omega
    | array items =>
      simp only [safeObservationSummaryInner]
      split
      · exact redacted_projected budget
      · have hFew := List.length_take_le budget.entriesRemaining items
        obtain ⟨hLength, hCount, hBytes, hShown⟩ := projectItems_projected ih
          { budget with entriesRemaining :=
              budget.entriesRemaining - (items.take budget.entriesRemaining).length }
          (items.take budget.entriesRemaining)
        refine ⟨?_, hBytes, .array hShown⟩
        simp only [entryCount] at *
        omega
    | object members =>
      simp only [safeObservationSummaryInner]
      split
      · exact redacted_projected budget
      · exact members_projected ih budget
          (fun member hMember => (List.mem_filter.mp (List.mem_of_mem_take hMember)).2)
          (List.length_take_le _ _)

/-- A member with a scalar value keeps it. -/
theorem mem_zip_projectItems
    (hProject : ∀ value budget, plainScalar value = true → (project value budget).1 = value)
    {member : String × Json} (hScalar : plainScalar member.2 = true)
    {members : List (String × Json)} (hMember : member ∈ members) (budget : ProjectionBudget) :
    member ∈ (members.map Prod.fst).zip
      (projectItems project budget (members.map Prod.snd)).1 := by
  induction members generalizing budget with
  | nil => cases hMember
  | cons first members ih =>
    simp only [List.map_cons, projectItems, List.zip_cons_cons]
    obtain rfl | hRest := List.mem_cons.mp hMember
    · rw [hProject member.2 budget hScalar]
      exact List.mem_cons_self ..
    · exact List.mem_cons_of_mem _ (ih hRest _)

end

/-- A value that is not a stored summary is shown within the bounds, and a permitted member of
the whole keeps its place and, if it is a scalar, its value. -/
theorem public_summary_bounded (value : Json)
    (hOther : ∀ payload, ObservationSummaryPayload.ofValue value ≠ .ok payload) :
    ShownSafely (safeObservationSummary value) ∧
      ∀ members, value = .object members →
        (members.filter (fun member => permittedKey member.1)).length ≤ 256 →
          ∃ shown, safeObservationSummary value = .object shown ∧
            shown.map Prod.fst =
              (members.filter (fun member => permittedKey member.1)).map Prod.fst ∧
            ∀ member ∈ members, permittedKey member.1 = true → plainScalar member.2 = true →
              member ∈ shown := by
  have hInner : safeObservationSummary value =
      (safeObservationSummaryInner 8 value ⟨256, 4096⟩).1 := by
    unfold safeObservationSummary
    split
    · rename_i payload hPayload
      exact absurd hPayload (hOther payload)
    · rfl
  have hProjected := safeObservationSummaryInner_projected 8 value ⟨256, 4096⟩
  rw [hInner]
  refine ⟨⟨?_, ?_, hProjected.nodes⟩, ?_⟩
  · exact Nat.le_trans (Nat.le_add_right _ _) hProjected.entries
  · exact Nat.le_trans (Nat.le_add_right _ _) hProjected.bytes
  · rintro members rfl hFew
    let permitted := members.filter (fun member => permittedKey member.1)
    let values := projectItems (safeObservationSummaryInner 7) ⟨256 - permitted.length, 4096⟩
      (permitted.map Prod.snd)
    have hAll : permitted.take 256 = permitted := List.take_of_length_le hFew
    have hShown : (safeObservationSummaryInner 8 (.object members) ⟨256, 4096⟩).1 =
        .object ((permitted.map Prod.fst).zip values.1) := by
      show Json.object (((permitted.take 256).map Prod.fst).zip (projectItems
        (safeObservationSummaryInner 7) ⟨256 - (permitted.take 256).length, 4096⟩
        ((permitted.take 256).map Prod.snd)).1) = _
      rw [hAll]
    refine ⟨_, hShown, List.map_fst_zip ?_, ?_⟩
    · obtain ⟨hLength, _⟩ := projectItems_projected (safeObservationSummaryInner_projected 7)
        ⟨256 - permitted.length, 4096⟩ (permitted.map Prod.snd)
      rw [List.length_map] at hLength ⊢
      exact hLength.ge
    · intro member hMember hKey hScalar
      refine mem_zip_projectItems ?_ hScalar (List.mem_filter.mpr ⟨hMember, hKey⟩) _
      intro scalar budget h
      cases scalar <;> first | rfl | cases h

/-- A summary that nests one branch deep beside a plain field. -/
def nestedSummary : Json :=
  .object [("attempts", .number (.posInt 3)), ("path", .array [.string "a", .object []])]

theorem nestedSummary_bounded : ShownSafely (safeObservationSummary nestedSummary) ∧
    ∃ shown, safeObservationSummary nestedSummary = .object shown ∧
      shown.map Prod.fst = ["attempts", "path"] ∧
      ("attempts", .number (.posInt 3)) ∈ shown := by
  obtain ⟨hSafe, hShown⟩ := public_summary_bounded nestedSummary (fun payload h => by cases h)
  obtain ⟨shown, hObject, hNames, hKept⟩ := hShown _ rfl (by decide)
  refine ⟨hSafe, shown, hObject, hNames.trans (by decide), ?_⟩
  exact hKept _ (List.mem_cons_self ..) (by decide) rfl

end OcFleet.Controller
