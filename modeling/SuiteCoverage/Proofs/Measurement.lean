import SuiteCoverage.Proofs.Hits
import SuiteCoverage.Proofs.Json
import SuiteCoverage.Proofs.Numeral
import SuiteCoverage.Proofs.Session.Exactness
import SuiteCoverage.Proofs.World.Environment
import SuiteCoverage.Proofs.World.Rereading

/-!
# Keeping measurements

A measurement that is kept in a data file is had again from it, the same in every field. Neither
the order of paths nor any relation between the lines of a file is needed for that, so it holds of
measurements that no session makes as well. What is in a file is had again only through the text
that is written there, and the text only through the document that it tells; so the statement goes
from the lines up to the document, and from there to the file.
-/

set_option autoImplicit false

namespace SuiteCoverage

/-! ## Documents -/

/-- The set of the lines of a set is the set. -/
theorem LineSet.ofList_lines (s : LineSet) : LineSet.ofList s.lines = s :=
  LineSet.ext_mem fun _ => LineSet.mem_ofList

/-- What is read item by item is had again if every item is. -/
theorem mapM_map_of_read {α β γ : Type} {tell : α → β} {value : α → γ} {read : β → Option γ}
    {items : List α} (h : ∀ a ∈ items, read (tell a) = some (value a)) :
    (items.map tell).mapM read = some (items.map value) := by
  induction items with
  | nil => rfl
  | cons item items ih =>
    rw [List.map_cons, List.mapM_cons, h item (by simp), ih fun a ha => h a (by simp [ha])]
    rfl

namespace Json

/-- Among members with different names there is one with the name of each. -/
theorem filter_name {members : List (String × Json)} (hnodup : (members.map (·.1)).Nodup)
    {member : String × Json} (hmem : member ∈ members) :
    members.filter (fun other => other.1 == member.1) = [member] := by
  induction members with
  | nil => cases hmem
  | cons first rest ih =>
    rw [List.map_cons, List.nodup_cons] at hnodup
    rcases List.mem_cons.1 hmem with rfl | hrest
    · have hnone : rest.filter (fun other => other.1 == member.1) = [] := by
        refine List.filter_eq_nil_iff.2 fun other hother heq => hnodup.1 ?_
        rw [← beq_iff_eq.1 heq]
        exact List.mem_map_of_mem hother
      rw [List.filter_cons_of_pos (by simp), hnone]
    · have hother : first.1 ≠ member.1 := fun heq => hnodup.1 (heq ▸ List.mem_map_of_mem hrest)
      rw [List.filter_cons_of_neg (by simpa using hother), ih hnodup.2 hrest]

/-- The fields of a record are its members. -/
theorem fields?_record {members : List (String × Json)} (hnodup : (members.map (·.1)).Nodup) :
    (record members).fields? (members.map (·.1)) = some (members.map (·.2)) := by
  rw [record, fields?, if_pos (by simp)]
  refine mapM_map_of_read fun member hmem => ?_
  have hnames : ((fun other : Option String × Json => other.1 == some member.1)
      ∘ fun other : String × Json => (some other.1, other.2))
      = fun other => other.1 == member.1 := rfl
  rw [List.filter_map, hnames, filter_name hnodup hmem]
  rfl

end Json

namespace Measurement

theorem word?_ofNat (n : UInt32) : word? (.ofNat n.toNat) = some n := by
  rw [Json.ofNat, word?, Numeral.readDigits?_toDigits]
  simp [n.toNat_lt]

theorem linesOfJson?_linesToJson (lines : LineSet) :
    linesOfJson? (linesToJson lines) = some lines := by
  rw [linesToJson, linesOfJson?]
  simp only [Json.items?, mapM_map_of_read fun n _ => word?_ofNat n, bind, Option.bind]
  rw [List.map_id', LineSet.ofList_lines]
  rfl

theorem accountOfJson?_accountToJson (account : FileAccount) :
    accountOfJson? (accountToJson account) = some account := by
  have hfields : (accountToJson account).fields? ["path", "statements", "executed", "excluded"]
      = some [.ofText account.path.spelling, linesToJson account.statements,
        linesToJson account.executed, linesToJson account.excluded] :=
    Json.fields?_record (by simp)
  rw [accountOfJson?, hfields]
  simp only [Json.ofText, Json.text?, linesOfJson?_linesToJson, bind, Option.bind]
  rfl

theorem ofJson?_toJson (m : Measurement) : ofJson? m.toJson = some (version, m) := by
  have hfields : m.toJson.fields? ["version", "source", "files"]
      = some [.ofNat version.toNat, .array (m.source.map Json.ofText),
        .array (m.files.map accountToJson)] :=
    Json.fields?_record (by simp)
  have hsource : (m.source.map Json.ofText).mapM Json.text? = some (m.source.map id) :=
    mapM_map_of_read fun _ _ => rfl
  have hfiles : (m.files.map accountToJson).mapM accountOfJson? = some (m.files.map id) :=
    mapM_map_of_read fun account _ => accountOfJson?_accountToJson account
  rw [List.map_id] at hsource hfiles
  rw [ofJson?, hfields]
  simp only [word?_ofNat, Json.items?, bind, Option.bind, hsource, hfiles]
  rfl

/-! ### The text of a document -/

theorem isProper_linesToJson (lines : LineSet) : (linesToJson lines).IsProper := by
  refine .array fun item hitem => ?_
  obtain ⟨n, -, rfl⟩ := List.mem_map.1 hitem
  exact .number n.toNat

theorem isProper_record {members : List (String × Json)}
    (h : ∀ member ∈ members, member.2.IsProper) : (Json.record members).IsProper := by
  refine .object (fun member hmember => ?_) fun member hmember => ?_
  all_goals obtain ⟨plain, hplain, rfl⟩ := List.mem_map.1 hmember
  · rfl
  · exact h plain hplain

theorem isProper_accountToJson (account : FileAccount) : (accountToJson account).IsProper := by
  refine isProper_record fun member hmember => ?_
  simp only [List.mem_cons, List.not_mem_nil, or_false] at hmember
  rcases hmember with rfl | rfl | rfl | rfl
  · exact .string _
  all_goals exact isProper_linesToJson _

theorem isProper_toJson (m : Measurement) : m.toJson.IsProper := by
  refine isProper_record fun member hmember => ?_
  simp only [List.mem_cons, List.not_mem_nil, or_false] at hmember
  rcases hmember with rfl | rfl | rfl
  · exact .number _
  · refine .array fun item hitem => ?_
    obtain ⟨text, -, rfl⟩ := List.mem_map.1 hitem
    exact .string text
  · refine .array fun item hitem => ?_
    obtain ⟨account, -, rfl⟩ := List.mem_map.1 hitem
    exact isProper_accountToJson account

/-- The version and the measurement that a text tells. -/
def told? (text : String) : Option (UInt32 × Measurement) :=
  (Json.read? text.toList).bind ofJson?

theorem told?_toText (m : Measurement) : told? m.toText = some (version, m) := by
  rw [told?, toText, Json.render, String.toList_ofList, Json.read?_write m.isProper_toJson,
    Option.bind_some, ofJson?_toJson]

theorem ofText_eq_ok_iff {text : String} {m : Measurement} :
    ofText text = .ok m ↔ told? text = some (version, m) := by
  rw [ofText, told?]
  cases (Json.read? text.toList).bind ofJson? with
  | none => simp
  | some found =>
    obtain ⟨number, measured⟩ := found
    by_cases hnumber : number = version
    · simp [hnumber]
    · simp [hnumber]

/-! ## Files -/

variable {m : Measurement} {v w next : World} {p q : Pathname}

theorem load_eq_ok_iff :
    load w p = .ok m ↔ ∃ text, w.readText p = .ok text ∧ told? text = some (version, m) := by
  rw [load]
  cases w.readText p with
  | error fault => simp
  | ok text =>
    simp only [Except.ok.injEq, exists_eq_left']
    rw [← ofText_eq_ok_iff]
    cases ofText text with
    | error flaw => exact ⟨nofun, nofun⟩
    | ok found =>
      show (.ok found : Except CoverageError Measurement) = .ok m ↔ _
      simp

theorem load_save (h : m.save w p = .ok next) (hreadable : next.HasReadable p) :
    load next p = .ok m :=
  load_eq_ok_iff.2
    ⟨m.toText, World.readText_of_writeText (writeText_of_save h) hreadable, told?_toText m⟩

/-- What is kept in a data file is had again, whatever the names and the lines in it are. The text
    of every measurement tells that measurement with version 1. If it has been saved at a path, by
    itself or by a session, and the path leads to a file that may be read, the measurement is
    loaded from there. And whatever is loaded from any file is of version 1, and is loaded again
    once it has been saved. -/
theorem loaded_as_saved :
    (∀ m : Measurement, told? m.toText = some (1, m)) ∧
    (∀ (m : Measurement) (w next : World) (p : Pathname),
      m.save w p = .ok next → next.HasReadable p → load next p = .ok m) ∧
    (∀ {κ : Type} (session : Session κ) (w next : World) (p : Pathname),
      session.save w = .ok (p, next) → next.HasReadable p →
        ∃ m, session.measurement = .ok m ∧ load next p = .ok m) ∧
    (∀ (v : World) (q : Pathname) (m : Measurement), load v q = .ok m →
      (∃ text, v.readText q = .ok text ∧ told? text = some (1, m)) ∧
      ∀ (w next : World) (p : Pathname),
        m.save w p = .ok next → next.HasReadable p → load next p = .ok m) := by
  refine ⟨told?_toText, fun m w next p => load_save, ?_, ?_⟩
  · intro κ session w next p hsave hreadable
    obtain ⟨m, hm, hsaved⟩ := Session.exists_of_save hsave
    exact ⟨m, hm, load_save hsaved hreadable⟩
  · intro v q m hload
    exact ⟨load_eq_ok_iff.1 hload, fun w next p => load_save⟩

/-- Names with quotes, a backslash, line ends, a control character and letters beyond the first
    bytes; files out of order; and lines that have run without counting. -/
def oddMeasurement : Measurement where
  source := ["say \"lib\"", "a\\b", "\n\r\t\x01\x7f", ""]
  files := [⟨⟨"lib/ü/日本.c"⟩, .ofList [7, 3], .ofList [4294967295], .empty⟩,
    ⟨⟨"a\x08\x0c"⟩, .empty, .ofList [0], .ofList [0]⟩]

theorem loaded_as_saved_odd :
    ∃ next, oddMeasurement.save Session.sourceWorld ⟨"lib/data.json"⟩ = .ok next ∧
      next.HasReadable ⟨"lib/data.json"⟩ ∧ load next ⟨"lib/data.json"⟩ = .ok oddMeasurement := by
  have hsaved : ((oddMeasurement.save Session.sourceWorld ⟨"lib/data.json"⟩).toOption.any
      fun next => (next.stat ⟨"lib/data.json"⟩).toOption.any World.isReadableFile) = true := by
    decide +kernel
  cases hsave : oddMeasurement.save Session.sourceWorld ⟨"lib/data.json"⟩ with
  | error e =>
    rw [hsave] at hsaved
    cases hsaved
  | ok next =>
    rw [hsave] at hsaved
    have hreadable : next.HasReadable ⟨"lib/data.json"⟩ := World.hasReadable_of_any hsaved
    exact ⟨next, rfl, hreadable, loaded_as_saved.2.1 _ _ _ _ hsave hreadable⟩

end Measurement

end SuiteCoverage
