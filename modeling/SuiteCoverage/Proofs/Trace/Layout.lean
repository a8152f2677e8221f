import SuiteCoverage.Proofs.Trace

/-!
# Layouts of a trace

Counts can be written down in many ways. `Encoded` has all of them: counts are divided into summands
and the summands spread over blocks (`Divides`), every block is a run of entries, entries are spelled
with blanks around them and checksums behind them and have other lines in between (`Written`), and
lines end one way or another (`Joined`). Each of these freedoms is undone by one step of reading, and
so whatever the layout, the counts are read as they were.
-/

set_option autoImplicit false

namespace SuiteCoverage

/-! ## Texts with blanks at their ends -/

namespace Text

/-- What is kept of the end of a text keeps all that is in front of it. -/
theorem trimEnd_append {b : List Char} (h : trimEnd b ≠ []) (a : List Char) :
    trimEnd (a ++ b) = a ++ trimEnd b := by
  induction a with
  | nil => rfl
  | cons c rest ih =>
    rw [List.cons_append, trimEnd, ih]
    split
    · rename_i hempty
      exact absurd (List.append_eq_nil_iff.1 hempty).2 h
    · rfl

/-- Blanks around a text are taken off. -/
theorem trim_padded {front back : List Char} (hfront : ∀ c ∈ front, isBlank c = true)
    (hback : ∀ c ∈ back, isBlank c = true) (text : List Char) :
    trim (front ++ text ++ back) = trim text := by
  unfold trim trimStart
  rw [List.append_assoc, List.dropWhile_append_of_pos hfront, List.dropWhile_append]
  split
  · rename_i hempty
    rw [List.isEmpty_iff.1 hempty]
    have hnone : back.dropWhile isBlank = [] := by
      rw [List.dropWhile_eq_nil_iff]
      exact hback
    rw [hnone]
  · exact trimEnd_append_of_all_blank hback

theorem trim_cons {c : Char} (h : isBlank c = false) (rest : List Char) :
    trim (c :: rest) = trimEnd (c :: rest) := by
  rw [trim, trimStart, List.dropWhile_cons_of_neg (by simp [h])]

theorem trimEnd_cons {c : Char} (h : isBlank c = false) (rest : List Char) :
    trimEnd (c :: rest) = c :: trimEnd rest := by
  rw [trimEnd]
  split
  · rename_i hempty
    rw [hempty, h]
    rfl
  · rfl

/-- A text that starts and ends in characters that are no blanks is not trimmed. -/
theorem trim_eq_self {text : List Char} (hfirst : ∀ c ∈ text.head?, isBlank c = false)
    (hlast : ∀ c ∈ text.getLast?, isBlank c = false) : trim text = text := by
  cases text with
  | nil => rfl
  | cons c rest =>
    rw [trim_cons (hfirst c rfl)]
    obtain ⟨front, last, hfront⟩ : ∃ front last, c :: rest = front ++ [last] :=
      ⟨_, _, (List.dropLast_concat_getLast (List.cons_ne_nil c rest)).symm⟩
    rw [hfront] at hlast ⊢
    exact trimEnd_concat (hlast last (by simp))

/-- A carriage return at the end of a line is a blank. -/
theorem trim_return (line : List Char) : trim (line ++ ['\r']) = trim line := by
  have hreturn : ∀ c ∈ ['\r'], isBlank c = true := List.forall_mem_singleton.2 (by decide)
  exact trim_padded (List.forall_mem_nil _) hreturn line

end Text

namespace Trace

/-! ## Entries and how they are spelled -/

/-- What a line of a trace is to say. -/
inductive Entry where
  | opens (path : Pathname)
  | counts (n : LineNumber) (count : Nat)
  | closes

/-- The text of an entry. -/
def Entry.text : Entry → List Char
  | opens path => "SF:".toList ++ path.spelling.toList
  | counts n count => "DA:".toList ++ (Nat.toDigits 10 n.toNat ++ ',' :: Nat.toDigits 10 count)
  | closes => closing

/-- Spaces and tabs. -/
def IsPadding (text : List Char) : Prop :=
  ∀ c ∈ text, c = ' ' ∨ c = '\t'

/-- Lines that spell an entry: its text with padding around it, and a count possibly with a
    checksum behind it. -/
inductive Spells : Entry → List Char → Prop
  | plain {entry : Entry} {front back : List Char} (hfront : IsPadding front)
      (hback : IsPadding back) : Spells entry (front ++ entry.text ++ back)
  | checked {n : LineNumber} {count : Nat} {checksum front back : List Char}
      (hchecksum : '\n' ∉ checksum) (hfront : IsPadding front) (hback : IsPadding back) :
      Spells (.counts n count) (front ++ ((Entry.counts n count).text ++ ',' :: checksum) ++ back)

/-- A line that says nothing of what is read. -/
structure IsNoise (line : List Char) : Prop where
  single : '\n' ∉ line
  not_closing : Text.trim line ≠ closing
  not_file : ¬ "SF:".toList <+: Text.trim line
  not_data : ¬ "DA:".toList <+: Text.trim line

/-- Lines in which entries are written, in their order, with noise anywhere. -/
inductive Written : List Entry → List (List Char) → Prop
  | nothing : Written [] []
  | noise {entries : List Entry} {line : List Char} {lines : List (List Char)}
      (hline : IsNoise line) (hrest : Written entries lines) : Written entries (line :: lines)
  | entry {entry : Entry} {entries : List Entry} {line : List Char} {lines : List (List Char)}
      (hline : Spells entry line) (hrest : Written entries lines) :
      Written (entry :: entries) (line :: lines)

/-- Texts that lines are joined to: each ends at a newline, with or without a carriage return in
    front of it, or the last one where the text does. -/
inductive Joined : List (List Char) → List Char → Prop
  | nothing : Joined [] []
  | unended {line : List Char} (h : line ≠ []) : Joined [line] line
  | newline {line text : List Char} {lines : List (List Char)} (hrest : Joined lines text) :
      Joined (line :: lines) (line ++ '\n' :: text)
  | carriage {line text : List Char} {lines : List (List Char)} (hrest : Joined lines text) :
      Joined (line :: lines) (line ++ '\r' :: '\n' :: text)

/-! ## Blocks -/

/-- Counts of one file that stand together. -/
structure Block where
  path : Pathname
  counts : List (LineNumber × Nat)

namespace Block

/-- The entries of a block. -/
def entries (block : Block) : List Entry :=
  .opens block.path :: (block.counts.map (fun e => .counts e.1 e.2) ++ [.closes])

/-- What a block adds. -/
def files (block : Block) : List FileHits :=
  ⟨block.path, OrderedMap.empty⟩
    :: block.counts.map fun e => ⟨block.path, LineCounts.add e.1 e.2 OrderedMap.empty⟩

end Block

/-- Counts divided into blocks: every file has one at least, and its counts are divided into
    summands that stand in its blocks in any order. -/
structure Divides (files : List FileHits) (blocks : List Block) : Prop where
  opened : ∀ file ∈ files, ∃ block ∈ blocks, block.path = file.path
  known : ∀ block ∈ blocks, ∃ file ∈ files, block.path = file.path
  divided : ∀ file ∈ files, ∃ summands : LineNumber → List Nat,
    (∀ e ∈ file.lines.entries, summands e.1 ≠ [] ∧ (summands e.1).sum = e.2) ∧
    ((blocks.filter fun block => block.path = file.path).flatMap (·.counts)).Perm
      (file.lines.entries.flatMap fun e => (summands e.1).map (e.1, ·))

/-- A text that counts are written in. -/
def Encoded (files : List FileHits) (content : String) : Prop :=
  ∃ blocks lines, Divides files blocks ∧ Written (blocks.flatMap Block.entries) lines ∧
    Joined lines content.toList

/-! ## Reading entries -/

/-- An entry that can be read back: a path that stands on one line and does not lose its end, and a
    count that there can be. -/
def Entry.IsReadable : Entry → Prop
  | opens path => '\n' ∉ path.spelling.toList ∧
      ∀ c ∈ path.spelling.toList.getLast?, Text.isBlank c = false
  | counts _ count => count < UInt64.size
  | closes => True

theorem IsPadding.isBlank {text : List Char} (h : IsPadding text) :
    ∀ c ∈ text, Text.isBlank c = true := by
  intro c hc
  rcases h c hc with rfl | rfl <;> decide

theorem IsPadding.single {text : List Char} (h : IsPadding text) : '\n' ∉ text := by
  intro hmem
  rcases h _ hmem with he | he <;> cases he

theorem isBlank_of_isDigit {c : Char} (h : c.isDigit = true) : Text.isBlank c = false := by
  have hrange : 48 ≤ c.toNat ∧ c.toNat ≤ 57 := by
    simpa [Char.isDigit, UInt32.le_iff_toNat_le] using h
  simp [Text.isBlank]
  omega

theorem trim_toDigits (n : Nat) : Text.trim (Nat.toDigits 10 n) = Nat.toDigits 10 n := by
  have hblank (c : Char) (hc : c ∈ Nat.toDigits 10 n) : Text.isBlank c = false :=
    isBlank_of_isDigit (Numeral.isDigit_of_mem_toDigits hc)
  exact Text.trim_eq_self (fun c hc => hblank c (List.mem_of_head? hc)) fun c hc =>
    hblank c (List.mem_of_getLast? hc)

/-- A comma behind a text without one ends its first field. -/
theorem splitField_append {a : List Char} (h : ',' ∉ a) (b : List Char) :
    splitField (a ++ ',' :: b) = (a, some b) := by
  induction a with
  | nil => rfl
  | cons c rest ih =>
    rw [List.mem_cons, not_or] at h
    rw [List.cons_append, splitField, ih h.2]
    exact fun he => h.1 he.symm

theorem splitField_of_not_mem {a : List Char} (h : ',' ∉ a) : splitField a = (a, none) := by
  induction a with
  | nil => rfl
  | cons c rest ih =>
    rw [List.mem_cons, not_or] at h
    rw [splitField, ih h.2]
    exact fun he => h.1 he.symm

theorem comma_not_mem_toDigits (n : Nat) : ',' ∉ Nat.toDigits 10 n :=
  Numeral.not_mem_toDigits (by decide) n

/-- The fields of an entry that counts, with a further field or without one. -/
theorem gives_toDigits {n : LineNumber} {count : Nat} (hcount : count < UInt64.size)
    {tail : List Char} (htail : tail = [] ∨ ∃ more, tail = ',' :: more) :
    Gives (Nat.toDigits 10 n.toNat ++ ',' :: (Nat.toDigits 10 count ++ tail)) n count := by
  obtain ⟨more, hmore⟩ : ∃ more, (Nat.toDigits 10 count ++ tail).splitOn ','
      = Nat.toDigits 10 count :: more := by
    rw [splitOn_eq]
    rcases htail with rfl | ⟨further, rfl⟩
    · rw [List.append_nil, splitField_of_not_mem (comma_not_mem_toDigits count)]
      exact ⟨_, rfl⟩
    · rw [splitField_append (comma_not_mem_toDigits count)]
      exact ⟨_, rfl⟩
  refine ⟨Nat.toDigits 10 n.toNat, Nat.toDigits 10 count, more, ?_, ?_, ?_⟩
  · rw [splitOn_eq, splitField_append (comma_not_mem_toDigits n.toNat), ← hmore]
    rfl
  · rw [trim_toDigits]
    exact Numeral.isNumeral_toDigits n.toNat
  · rw [trim_toDigits]
    exact Numeral.count?_toDigits hcount

/-- What a line has to say for an entry. -/
def Entry.IsSaidBy : Entry → List Char → Prop
  | opens path, line => Opens path line
  | counts n count, line => ∃ fields, Counts fields line ∧ Gives fields n count
  | closes, line => line = closing

/-- The text of an entry is not trimmed. -/
theorem Entry.trim_text {entry : Entry} (h : entry.IsReadable) :
    Text.trim entry.text = entry.text := by
  cases entry with
  | opens path =>
    have hlast : (opens path).text.getLast? = path.spelling.toList.getLast?.or (some ':') :=
      List.getLast?_append
    refine Text.trim_eq_self (by rintro c ⟨⟩; decide) fun d hd => ?_
    rw [hlast] at hd
    cases hpath : path.spelling.toList.getLast? with
    | none =>
      rw [hpath] at hd
      cases hd
      decide
    | some c =>
      rw [hpath] at hd
      exact h.2 d (hpath ▸ hd)
  | counts n count =>
    have hlast : (counts n count).text.getLast? = (Nat.toDigits 10 count).getLast? := by
      obtain ⟨last, hdigits⟩ := Option.isSome_iff_exists.1
        (List.getLast?_isSome.2 (Nat.toDigits_ne_nil (b := 10) (n := count)))
      rw [Entry.text, List.getLast?_append, List.getLast?_append, List.getLast?_cons, hdigits]
      rfl
    refine Text.trim_eq_self (by rintro c ⟨⟩; decide) fun d hd => ?_
    rw [hlast] at hd
    exact isBlank_of_isDigit (Numeral.isDigit_of_mem_toDigits (List.mem_of_getLast? hd))
  | closes => decide

/-- However an entry is spelled, the line says it. -/
theorem Spells.isSaidBy {entry : Entry} {line : List Char} (h : Spells entry line)
    (hread : entry.IsReadable) : entry.IsSaidBy (Text.trim line) := by
  cases h with
  | plain hfront hback =>
    rw [Text.trim_padded hfront.isBlank hback.isBlank, Entry.trim_text hread]
    cases entry with
    | opens path => exact rfl
    | counts n count =>
      exact ⟨_, rfl, by simpa using gives_toDigits (n := n) hread (.inl rfl)⟩
    | closes => exact rfl
  | @checked n count checksum front back hchecksum hfront hback =>
    have htail : Text.trimEnd (',' :: checksum) = ',' :: Text.trimEnd checksum :=
      Text.trimEnd_cons (by decide) checksum
    have htrim : Text.trim ((Entry.counts n count).text ++ ',' :: checksum)
        = (Entry.counts n count).text ++ ',' :: Text.trimEnd checksum := by
      rw [← htail, ← Text.trimEnd_append (by simp [htail])]
      exact Text.trim_cons (by decide) _
    rw [Text.trim_padded hfront.isBlank hback.isBlank, htrim]
    refine ⟨_, ?_, gives_toDigits hread (.inr ⟨Text.trimEnd checksum, rfl⟩)⟩
    simp [Counts, Entry.text]

theorem Entry.single_text {entry : Entry} (h : entry.IsReadable) : '\n' ∉ entry.text := by
  have hdigits (n : Nat) : '\n' ∉ Nat.toDigits 10 n := fun hmem =>
    absurd (Numeral.isDigit_of_mem_toDigits hmem) (by decide)
  cases entry with
  | opens path => simpa [Entry.text] using h.1
  | counts n count => simp [Entry.text, hdigits]
  | closes => decide

theorem Spells.single {entry : Entry} {line : List Char} (h : Spells entry line)
    (hread : entry.IsReadable) : '\n' ∉ line := by
  have htext := Entry.single_text hread
  cases h with
  | plain hfront hback => simp [hfront.single, hback.single, htext]
  | checked hchecksum hfront hback => simp [hfront.single, hback.single, htext, hchecksum]

/-- Every line that is written is one line. -/
theorem Written.single {entries : List Entry} {lines : List (List Char)} (h : Written entries lines)
    (hread : ∀ entry ∈ entries, entry.IsReadable) : ∀ line ∈ lines, '\n' ∉ line := by
  induction h with
  | nothing => simp
  | noise hline hrest ih => exact List.forall_mem_cons.2 ⟨hline.single, ih hread⟩
  | entry hline hrest ih =>
    obtain ⟨hentry, hothers⟩ := List.forall_mem_cons.1 hread
    exact List.forall_mem_cons.2 ⟨hline.single hentry, ih hothers⟩

/-- Lines that are joined are had again, but for blanks at their ends. -/
theorem Joined.trim_lines {lines : List (List Char)} {text : List Char} (h : Joined lines text)
    (hsingle : ∀ line ∈ lines, '\n' ∉ line) :
    (Text.lines text).map Text.trim = lines.map Text.trim := by
  have hnewline {line rest : List Char} (hline : '\n' ∉ line) :
      (Text.lines (line ++ '\n' :: rest)).map Text.trim
        = Text.trim line :: (Text.lines rest).map Text.trim := by
    obtain ⟨kept, hkept, hreturn⟩ := Text.lines_newline hline
    have htrim : Text.trim kept = Text.trim line := by
      rcases hreturn with rfl | rfl
      · rfl
      · exact (Text.trim_return kept).symm
    rw [← List.singleton_append, ← List.append_assoc, Text.lines_append (.inr (by simp)), hkept,
      List.singleton_append, List.map_cons, htrim]
  induction h with
  | nothing => rfl
  | unended hne => rw [Text.lines_of_not_mem hne (hsingle _ (by simp))]
  | newline hrest ih =>
    obtain ⟨hline, hothers⟩ := List.forall_mem_cons.1 hsingle
    rw [hnewline hline, ih hothers, List.map_cons]
  | @carriage line text lines hrest ih =>
    -- The return is a blank at the end of the line.
    obtain ⟨hline, hothers⟩ := List.forall_mem_cons.1 hsingle
    rw [← List.singleton_append, ← List.append_assoc, hnewline (by simp [hline]), ih hothers,
      List.map_cons, Text.trim_return]

/-! ## What entries add -/

/-- Entries that are read while `current` is open add the counts of some files, and leave a file
    open or none. -/
inductive Amounts : Option Pathname → List Entry → List FileHits → Option Pathname → Prop
  | nothing {current : Option Pathname} : Amounts current [] [] current
  | opens {current last : Option Pathname} {path : Pathname} {entries : List Entry}
      {files : List FileHits} (hrest : Amounts (some path) entries files last) :
      Amounts current (.opens path :: entries) (⟨path, OrderedMap.empty⟩ :: files) last
  | counts {last : Option Pathname} {path : Pathname} {n : LineNumber} {count : Nat}
      {entries : List Entry} {files : List FileHits}
      (hrest : Amounts (some path) entries files last) :
      Amounts (some path) (.counts n count :: entries)
        (⟨path, LineCounts.add n count OrderedMap.empty⟩ :: files) last
  | closes {current last : Option Pathname} {entries : List Entry} {files : List FileHits}
      (hrest : Amounts none entries files last) : Amounts current (.closes :: entries) files last

/-- A block adds its counts, whatever was open before it. -/
theorem amounts_block (block : Block) {current last : Option Pathname} {entries : List Entry}
    {files : List FileHits} (h : Amounts none entries files last) :
    Amounts current (block.entries ++ entries) (block.files ++ files) last := by
  obtain ⟨path, counts⟩ := block
  have hcounts : Amounts (some path)
      (counts.map (fun e => Entry.counts e.1 e.2) ++ [.closes] ++ entries)
      (counts.map (fun e => ⟨path, LineCounts.add e.1 e.2 OrderedMap.empty⟩) ++ files) last := by
    induction counts with
    | nil => exact .closes h
    | cons e rest ih => exact .counts ih
  exact .opens hcounts

theorem amounts_blocks (blocks : List Block) :
    Amounts none (blocks.flatMap Block.entries) (blocks.flatMap Block.files) none := by
  induction blocks with
  | nil => exact .nothing
  | cons block rest ih => exact amounts_block block ih

theorem IsNoise.ofLine {line : List Char} (h : IsNoise line) :
    Record.ofLine (Text.trim line) = .other := by
  rcases ofLine_cases (Text.trim line) with
    ⟨path, hopens, -⟩ | ⟨fields, hcounts, -⟩ | ⟨hclose, -⟩ | ⟨-, -, -, hkind⟩
  · exact absurd ⟨path.spelling.toList, hopens.symm⟩ h.not_file
  · exact absurd ⟨fields, hcounts.symm⟩ h.not_data
  · exact absurd hclose h.not_closing
  · exact hkind

/-- Lines in which entries are written add what the entries do. -/
theorem Written.adds {current last : Option Pathname} {entries : List Entry}
    {lines : List (List Char)} {files : List FileHits} (h : Written entries lines)
    (hread : ∀ entry ∈ entries, entry.IsReadable) (hamounts : Amounts current entries files last) :
    Adds current lines files last := by
  induction h generalizing current files with
  | nothing =>
    cases hamounts
    exact .nothing
  | noise hline hrest ih => exact .passing hline.ofLine (ih hread hamounts)
  | entry hline hrest ih =>
    obtain ⟨hentry, hothers⟩ := List.forall_mem_cons.1 hread
    have hsaid := hline.isSaidBy hentry
    cases hamounts with
    | opens hamounts => exact .opening (ofLine_of_opens hsaid) (ih hothers hamounts)
    | counts hamounts =>
      obtain ⟨fields, hcounts, hgives⟩ := hsaid
      exact .counting (ofLine_of_counts hcounts) (readCount_eq_ok_iff.2 hgives)
        (ih hothers hamounts)
    | closes hamounts =>
      exact .closing (hsaid.symm ▸ ofLine_closing) (ih hothers hamounts)

/-- What lines add does not depend on the blanks at their ends. -/
theorem Adds.congr {current last : Option Pathname} {lines other : List (List Char)}
    {files : List FileHits} (h : Adds current lines files last)
    (htrim : lines.map Text.trim = other.map Text.trim) : Adds current other files last := by
  induction h generalizing other with
  | nothing =>
    cases List.map_eq_nil_iff.1 htrim.symm
    exact .nothing
  | opening hline hrest ih =>
    obtain ⟨line, rest, rfl, hfirst, hothers⟩ := List.map_eq_cons_iff.1 htrim.symm
    exact .opening (hfirst ▸ hline) (ih hothers.symm)
  | counting hline hfields hrest ih =>
    obtain ⟨line, rest, rfl, hfirst, hothers⟩ := List.map_eq_cons_iff.1 htrim.symm
    exact .counting (hfirst ▸ hline) hfields (ih hothers.symm)
  | closing hline hrest ih =>
    obtain ⟨line, rest, rfl, hfirst, hothers⟩ := List.map_eq_cons_iff.1 htrim.symm
    exact .closing (hfirst ▸ hline) (ih hothers.symm)
  | passing hline hrest ih =>
    obtain ⟨line, rest, rfl, hfirst, hothers⟩ := List.map_eq_cons_iff.1 htrim.symm
    exact .passing (hfirst ▸ hline) (ih hothers.symm)

/-! ## Counts that were divided -/

/-- The counts for a line among entries of a file. -/
def countsOf (n : LineNumber) (counts : List (LineNumber × Nat)) : List Nat :=
  counts.filterMap fun e => if e.1 = n then some e.2 else none

theorem countsOf_cons (n : LineNumber) (e : LineNumber × Nat) (counts : List (LineNumber × Nat)) :
    countsOf n (e :: counts) = (if n = e.1 then [e.2] else []) ++ countsOf n counts := by
  unfold countsOf
  by_cases hn : n = e.1
  · simp [hn]
  · simp [hn, Ne.symm hn]

theorem countsOf_append (n : LineNumber) (counts more : List (LineNumber × Nat)) :
    countsOf n (counts ++ more) = countsOf n counts ++ countsOf n more :=
  List.filterMap_append

/-- A block counts for its own path. -/
theorem countsAt_block (block : Block) (p : Pathname) (n : LineNumber) :
    HitTable.countsAt block.files p n
      = if block.path.same p = true then countsOf n block.counts else [] := by
  obtain ⟨path, counts⟩ := block
  have hcounts : HitTable.countsAt
      (counts.map fun e => ⟨path, LineCounts.add e.1 e.2 OrderedMap.empty⟩) p n
        = if path.same p = true then countsOf n counts else [] := by
    induction counts with
    | nil => simp [HitTable.countsAt, countsOf]
    | cons e rest ih =>
      rw [List.map_cons, ← List.singleton_append, HitTable.countsAt_append, ih,
        HitTable.countsAt_single, countsOf_cons]
      by_cases hsame : path.same p = true <;> simp [hsame]
  rw [Block.files, ← List.singleton_append, HitTable.countsAt_append, HitTable.countsAt_bare,
    List.nil_append]
  exact hcounts

theorem countsAt_blocks (blocks : List Block) (p : Pathname) (n : LineNumber) :
    HitTable.countsAt (blocks.flatMap Block.files) p n
      = countsOf n ((blocks.filter fun block => block.path.same p).flatMap (·.counts)) := by
  induction blocks with
  | nil => rfl
  | cons block rest ih =>
    rw [List.flatMap_cons, HitTable.countsAt_append, ih, countsAt_block]
    by_cases hsame : block.path.same p = true
    · rw [if_pos hsame, List.filter_cons, if_pos hsame, List.flatMap_cons, countsOf_append]
    · rw [if_neg hsame, List.filter_cons, if_neg hsame, List.nil_append]

/-- The summands of a count are what stands for it among those of all counts. -/
theorem countsOf_summands (lines : LineCounts) (summands : LineNumber → List Nat) (n : LineNumber) :
    countsOf n (lines.entries.flatMap fun e => (summands e.1).map (e.1, ·))
      = if (OrderedMap.get? lines n).isSome then summands n else [] := by
  have hsummands (k : LineNumber) :
      countsOf n ((summands k).map (k, ·)) = if n = k then summands n else [] := by
    by_cases hk : n = k
    · simp [countsOf, hk, List.filterMap_map]
    · simp [countsOf, hk, Ne.symm hk]
  have hentries (entries : List (LineNumber × Nat)) :
      countsOf n (entries.flatMap fun e => (summands e.1).map (e.1, ·))
        = (entries.filter fun e => compare n e.1 == .eq).flatMap fun _ => summands n := by
    induction entries with
    | nil => rfl
    | cons e rest ih =>
      rw [List.flatMap_cons, countsOf_append, ih, hsummands, List.filter_cons]
      by_cases hn : n = e.1
      · simp [hn]
      · simp [hn]
  rw [hentries, OrderedMap.filter_eq_toList_find? lines.ascending, OrderedMap.get?]
  cases lines.entries.find? fun e => compare n e.1 == .eq with
  | none => rfl
  | some e => simp

/-- Counts that were divided are the sums of their summands. -/
theorem Divides.get? {files : List FileHits} {blocks : List Block} (h : Divides files blocks)
    (hascending : files.Pairwise fun a b => Pathname.order a.path b.path = .lt) {file : FileHits}
    (hfile : file ∈ files) (n : LineNumber) :
    OrderedMap.get? file.lines n
      = if (HitTable.countsAt (blocks.flatMap Block.files) file.path n).isEmpty then none
        else some (HitTable.countsAt (blocks.flatMap Block.files) file.path n).sum := by
  obtain ⟨summands, hsums, hperm⟩ := h.divided file hfile
  have hblocks : (blocks.filter fun block => block.path.same file.path)
      = blocks.filter fun block => block.path = file.path := by
    refine List.filter_congr fun block hblock => ?_
    obtain ⟨other, hother, hpath⟩ := h.known block hblock
    rw [Bool.eq_iff_iff, decide_eq_true_iff]
    constructor
    · intro hsame
      rw [hpath] at hsame ⊢
      exact HitTable.path_eq_of_same hascending hfile hother hsame
    · exact fun he => Pathname.same_iff.2 (congrArg Pathname.components he)
  have hcounts : (HitTable.countsAt (blocks.flatMap Block.files) file.path n).Perm
      (if (OrderedMap.get? file.lines n).isSome then summands n else []) := by
    rw [countsAt_blocks, hblocks, ← countsOf_summands]
    exact hperm.filterMap _
  rw [hcounts.isEmpty_eq, hcounts.sum_eq]
  cases hget : OrderedMap.get? file.lines n with
  | none => rfl
  | some count =>
    obtain ⟨hne, hsum⟩ := hsums (n, count) (LineCounts.get?_eq_some_iff.1 hget)
    simp [hne, hsum]

/-- Every summand is at most what it is a summand of. -/
theorem Divides.lt {files : List FileHits} {blocks : List Block} (h : Divides files blocks)
    (hlt : ∀ file ∈ files, ∀ e ∈ file.lines.entries, e.2 < UInt64.size) :
    ∀ block ∈ blocks, ∀ e ∈ block.counts, e.2 < UInt64.size := by
  intro block hblock e he
  obtain ⟨file, hfile, hpath⟩ := h.known block hblock
  obtain ⟨summands, hsums, hperm⟩ := h.divided file hfile
  have hmem : e ∈ (blocks.filter fun block => block.path = file.path).flatMap (·.counts) :=
    List.mem_flatMap.2 ⟨block, List.mem_filter.2 ⟨hblock, by simpa using hpath⟩, he⟩
  obtain ⟨whole, hwhole, hsummand⟩ := List.mem_flatMap.1 (hperm.mem_iff.1 hmem)
  obtain ⟨summand, hin, rfl⟩ := List.mem_map.1 hsummand
  calc summand ≤ (summands whole.1).sum := List.le_sum_of_mem hin
    _ = whole.2 := (hsums whole hwhole).2
    _ < UInt64.size := hlt file hfile whole hwhole

/-! ## Whole layouts -/

/-- Counts are read from whatever text they are written in: the paths ascend, stand on one line and
    do not end in a blank, and the counts are such as there can be. -/
theorem read_encoded {files : List FileHits} {content : String}
    (hascending : files.Pairwise fun a b => Pathname.order a.path b.path = .lt)
    (hpaths : ∀ file ∈ files, '\n' ∉ file.path.spelling.toList ∧
      ∀ c ∈ file.path.spelling.toList.getLast?, Text.isBlank c = false)
    (hcounts : ∀ file ∈ files, ∀ e ∈ file.lines.entries, e.2 < UInt64.size)
    (hencoded : Encoded files content) : read content = .ok files := by
  obtain ⟨blocks, lines, hdivides, hwritten, hjoined⟩ := hencoded
  have hread : ∀ entry ∈ blocks.flatMap Block.entries, entry.IsReadable := by
    intro entry hentry
    obtain ⟨block, hblock, hin⟩ := List.mem_flatMap.1 hentry
    obtain ⟨file, hfile, hpath⟩ := hdivides.known block hblock
    rcases List.mem_cons.1 hin with rfl | hin
    · exact hpath.symm ▸ hpaths file hfile
    rcases List.mem_append.1 hin with hin | hin
    · obtain ⟨e, he, rfl⟩ := List.mem_map.1 hin
      exact hdivides.lt hcounts block hblock e he
    · rw [List.mem_singleton.1 hin]
      trivial
  have hadds : Adds none (Text.lines content.toList) (blocks.flatMap Block.files) none :=
    (hwritten.adds hread (amounts_blocks blocks)).congr
      (hjoined.trim_lines (hwritten.single hread)).symm
  refine read_eq_ok_iff.2 ⟨blocks.flatMap Block.files, none, hadds, ?_⟩
  refine (HitTable.files_ofFiles_eq hascending ?_ ?_ fun file hfile n =>
    hdivides.get? hascending hfile n).symm
  · intro a ha
    obtain ⟨block, hblock, hin⟩ := List.mem_flatMap.1 ha
    obtain ⟨file, hfile, hpath⟩ := hdivides.known block hblock
    refine ⟨file, hfile, ?_⟩
    rcases List.mem_cons.1 hin with rfl | hin
    · exact hpath
    · obtain ⟨e, -, rfl⟩ := List.mem_map.1 hin
      exact hpath
  · intro file hfile
    obtain ⟨block, hblock, hpath⟩ := hdivides.opened file hfile
    exact ⟨_, List.mem_flatMap.2 ⟨block, hblock, List.mem_cons_self⟩, hpath⟩

/-- A file in two blocks with another between them: one count in two summands, a checksum, padding,
    noise, both ends of lines, and none behind the last. -/
theorem read_encoded_in_pieces :
    let twice : FileHits := ⟨⟨"/m/a b.c"⟩, LineCounts.ofList [(3, 5), (7, 0)]⟩
    let bare : FileHits := ⟨⟨"/m/x.c"⟩, OrderedMap.empty⟩
    let content := "TN:\nSF:/m/a b.c\nDA:7,0\n DA:3,2,Xy=\t\nend_of_record\nSF:/m/x.c\r\n"
      ++ "end_of_record\n\nSF:/m/a b.c\nDA:3,3\nend_of_record "
    [twice, bare].Pairwise (fun a b => Pathname.order a.path b.path = .lt) ∧
      (∀ file ∈ [twice, bare], '\n' ∉ file.path.spelling.toList ∧
        ∀ c ∈ file.path.spelling.toList.getLast?, Text.isBlank c = false) ∧
      (∀ file ∈ [twice, bare], ∀ e ∈ file.lines.entries, e.2 < UInt64.size) ∧
      Encoded [twice, bare] content ∧ read content = .ok [twice, bare] := by
  intro twice bare content
  have hascending : [twice, bare].Pairwise (fun a b => Pathname.order a.path b.path = .lt) := by
    decide
  have hpaths : ∀ file ∈ [twice, bare], '\n' ∉ file.path.spelling.toList ∧
      ∀ c ∈ file.path.spelling.toList.getLast?, Text.isBlank c = false := by
    simp [twice, bare, Text.isBlank]
  have hcounts : ∀ file ∈ [twice, bare], ∀ e ∈ file.lines.entries, e.2 < UInt64.size := by
    decide
  have hdivides : Divides [twice, bare]
      [⟨⟨"/m/a b.c"⟩, [(7, 0), (3, 2)]⟩, ⟨⟨"/m/x.c"⟩, []⟩, ⟨⟨"/m/a b.c"⟩, [(3, 3)]⟩] := by
    refine ⟨by simp [twice, bare], by simp [twice, bare], List.forall_mem_cons.2 ⟨?_, ?_⟩⟩
    · exact ⟨fun n => if n = 3 then [2, 3] else [0], by decide, by decide⟩
    · exact List.forall_mem_singleton.2 ⟨fun _ => [], by decide, by decide⟩
  have hplain (entry : Entry) : Spells entry ([] ++ entry.text ++ []) :=
    .plain (by simp [IsPadding]) (by simp [IsPadding])
  have hchecked : Spells (.counts 3 2) ([' '] ++ ((Entry.counts 3 2).text ++ ',' :: "Xy=".toList)
      ++ ['\t']) :=
    .checked (by decide) (by simp [IsPadding]) (by simp [IsPadding])
  have hpadded : Spells .closes ([] ++ Entry.closes.text ++ [' ']) :=
    .plain (by simp [IsPadding]) (by simp [IsPadding])
  have hnoise : IsNoise "TN:".toList := ⟨by decide, by decide, by decide, by decide⟩
  have hblank : IsNoise [] := ⟨by decide, by decide, by decide, by decide⟩
  obtain ⟨lines, hwritten, hjoined⟩ : ∃ lines, Written
      ([⟨⟨"/m/a b.c"⟩, [(7, 0), (3, 2)]⟩, ⟨⟨"/m/x.c"⟩, []⟩, ⟨⟨"/m/a b.c"⟩, [(3, 3)]⟩].flatMap
        Block.entries) lines ∧ ∃ text, Joined lines text ∧ text = content.toList := by
    refine ⟨_, .noise hnoise (.entry (hplain _) (.entry (hplain _) (.entry hchecked
      (.entry (hplain _) (.entry (hplain _) (.entry (hplain _) (.noise hblank (.entry (hplain _)
      (.entry (hplain _) (.entry hpadded .nothing)))))))))), _, .newline (.newline (.newline (.newline
      (.newline (.carriage (.newline (.newline (.newline (.newline (.unended ?_)))))))))), ?_⟩
    · decide
    · rw [String.toList_append]
      refine Eq.trans ?_ (congrArg₂ HAppend.hAppend String.toList_ofList String.toList_ofList).symm
      decide
  obtain ⟨text, hjoined, rfl⟩ := hjoined
  have hencoded : Encoded [twice, bare] content := ⟨_, lines, hdivides, hwritten, hjoined⟩
  exact ⟨hascending, hpaths, hcounts, hencoded,
    read_encoded hascending hpaths hcounts hencoded⟩

end Trace
end SuiteCoverage
