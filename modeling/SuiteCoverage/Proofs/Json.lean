import Mathlib
import SuiteCoverage.Proofs.Numeral
import SuiteCoverage.Json.Reader

/-!
# What is written is read again

A value that is written as a document is read from it again, whatever is in its strings and however
deep it goes (`read?_write`). Only values that a document can tell are meant: whole numbers, and
strings that are texts.

Reading goes by the text and writing by the value, so the proof goes by the value and takes the
text along: what is read of a written value followed by anything else is the value, and what
follows it is left. Of what follows a number it matters that it does not go on with the number. The
steps that reading may take are counted against the length of what has been written.
-/

set_option autoImplicit false

namespace SuiteCoverage
namespace Json

/-! ## Strings -/

theorem hexUnit?_control : ∀ n < 0x20,
    hexUnit? '0' '0' (Nat.digitChar (n / 16)) (Nat.digitChar (n % 16)) = some n := by
  decide

/-- However a character is written, it is read as its code point. -/
theorem readUnits?_escapeChar (c : Char) (rest : List Char) :
    readUnits? (escapeChar c ++ rest)
      = (readUnits? rest).map fun (units, after) => (c.toNat :: units, after) := by
  unfold escapeChar
  split_ifs with hquote hslash hback hfeed hnewline hreturn htab hcontrol
  · subst hquote; rfl
  · subst hslash; rfl
  · subst hback; rfl
  · subst hfeed; rfl
  · subst hnewline; rfl
  · subst hreturn; rfl
  · subst htab; rfl
  · simp only [List.cons_append, List.nil_append, readUnits?, hexUnit?_control _ hcontrol]
  · rw [List.singleton_append, readUnits?, if_neg (by simp [hslash, hcontrol])]
    · exact hquote
    · exact fun _ _ _ _ _ h => (hslash h).elim
    · exact fun _ _ h => (hslash h).elim

theorem readUnits?_escaped (text rest : List Char) :
    readUnits? (text.flatMap escapeChar ++ '"' :: rest) = some (text.map Char.toNat, rest) := by
  induction text with
  | nil => rfl
  | cons c text ih =>
    rw [List.flatMap_cons, List.append_assoc, readUnits?_escapeChar, ih]
    rfl

/-- The code points of a text have no surrogates among them. -/
theorem textOfUnits?_toNat (text : List Char) :
    textOfUnits? (text.map Char.toNat) = some text := by
  induction text with
  | nil => rfl
  | cons c text ih =>
    have hvalid : c.toNat < 0xD800 ∨ 0xE000 ≤ c.toNat := by
      rcases c.valid with h | h
      · exact .inl h
      · exact .inr h.1
    rw [List.map_cons, textOfUnits?.eq_def]
    simp only
    rw [if_neg (by omega), if_neg (by omega), ih, Char.ofNat_toNat]
    rfl

/-- A string behind its opening quote. -/
theorem readString?_written (text : String) (rest : List Char) :
    readString? (text.toList.flatMap escapeChar ++ '"' :: rest) = some (some text, rest) := by
  rw [readString?, readUnits?_escaped, Option.map_some]
  simp only [textOfUnits?_toNat, Option.map_some, String.ofList_toList]

/-! ## Numbers -/

/-- No text that starts so goes on with a number. -/
def EndsNumber (text : List Char) : Prop :=
  ∀ c ∈ text.head?, c.isDigit = false ∧ c ≠ '.' ∧ c ≠ 'e' ∧ c ≠ 'E'

theorem endsNumber_nil : EndsNumber [] := by
  intro c hc
  cases hc

theorem spanDigits_append {digits rest : List Char} (hdigits : ∀ c ∈ digits, c.isDigit = true)
    (hrest : EndsNumber rest) : spanDigits (digits ++ rest) = (digits, rest) := by
  have hstop : rest.takeWhile Char.isDigit = [] ∧ rest.dropWhile Char.isDigit = rest := by
    cases rest with
    | nil => exact ⟨rfl, rfl⟩
    | cons c rest =>
      have hc := (hrest c rfl).1
      simp [hc]
  rw [spanDigits, List.takeWhile_append_of_pos hdigits, List.dropWhile_append_of_pos hdigits,
    hstop.1, hstop.2, List.append_nil]

/-- Only the number zero is written with a zero in front. -/
theorem tail_toDigits {n : Nat} {rest : List Char} (h : Nat.toDigits 10 n = '0' :: rest) :
    rest = [] := by
  induction n using Nat.strong_induction_on generalizing rest with
  | _ n ih =>
    by_cases hn : n < 10
    · rw [Nat.toDigits_of_lt_base hn] at h
      exact (List.cons_eq_cons.1 h).2.symm
    · rw [Nat.toDigits_of_base_le (by omega) (by omega)] at h
      obtain ⟨front, hfront⟩ : ∃ front, Nat.toDigits 10 (n / 10) = '0' :: front := by
        cases hdigits : Nat.toDigits 10 (n / 10) with
        | nil => exact (Nat.toDigits_ne_nil hdigits).elim
        | cons c front =>
          rw [hdigits] at h
          exact ⟨front, by rw [(List.cons_eq_cons.1 h).1]⟩
      have hzero := ih (n / 10) (by omega) hfront
      have hvalue := Nat.ofDigitChars_ten_toDigits (n := n / 10)
      rw [hfront, hzero] at hvalue
      have : n / 10 = 0 := hvalue.symm
      omega

/-- Digits are read to their end, unless there is a zero in front. -/
theorem readNumber?_digits {digits rest : List Char} (hdigits : ∀ c ∈ digits, c.isDigit = true)
    (hne : digits ≠ []) (hlead : ∀ tail, digits = '0' :: tail → tail = [])
    (hrest : EndsNumber rest) : readNumber? (digits ++ rest) = some (digits, rest) := by
  have hwhole : readWhole? (digits ++ rest) = some (digits, rest) := by
    rw [readWhole?, spanDigits_append hdigits hrest]
    split
    · rename_i hnil
      exact (hne (Prod.mk.inj hnil).1).elim
    · rename_i hzero
      cases hlead _ (Prod.mk.inj hzero).1
    · rename_i hsame
      rw [(Prod.mk.inj hsame).1, (Prod.mk.inj hsame).2]
  have hfraction : readFraction? rest = some ([], rest) := by
    unfold readFraction?
    split
    · exact absurd rfl (hrest _ rfl).2.1
    · rfl
  have hexponent : readExponent? rest = some ([], rest) := by
    unfold readExponent?
    split
    · rw [if_neg]
      exact fun h => h.elim (hrest _ rfl).2.2.1 (hrest _ rfl).2.2.2
    · rfl
  have hmagnitude : readMagnitude? (digits ++ rest) = some (digits, rest) := by
    rw [readMagnitude?, hwhole]
    simp [hfraction, hexponent]
  unfold readNumber?
  split
  · rename_i hminus
    cases digits with
    | nil => exact absurd rfl hne
    | cons c tail =>
      rw [(List.cons_eq_cons.1 hminus).1] at hdigits
      exact absurd (hdigits '-' (by simp)) (by decide)
  · exact hmagnitude

theorem readNumber?_toDigits (n : Nat) {rest : List Char} (hrest : EndsNumber rest) :
    readNumber? (Nat.toDigits 10 n ++ rest) = some (Nat.toDigits 10 n, rest) :=
  readNumber?_digits (fun _ hc => Numeral.isDigit_of_mem_toDigits hc)
    Nat.toDigits_ne_nil (fun _ => tail_toDigits) hrest

/-! ## Values -/

/-- Values that a document can tell: all numbers are whole, and all strings are texts. -/
inductive IsProper : Json → Prop
  | null : IsProper null
  | bool (value : Bool) : IsProper (bool value)
  | number (n : Nat) : IsProper (ofNat n)
  | string (text : String) : IsProper (ofText text)
  | array {items : List Json} (h : ∀ item ∈ items, IsProper item) : IsProper (array items)
  | object {members : List (Option String × Json)} (hkeys : ∀ member ∈ members, member.1.isSome)
      (h : ∀ member ∈ members, IsProper member.2) : IsProper (object members)

/-- Written at any depth and followed by anything but more of a number, the value is read back in
    as many steps as it has characters. -/
def ReadsBack (value : Json) : Prop :=
  ∀ depth steps rest, EndsNumber rest → (write depth value).length ≤ steps →
    readValue? steps (write depth value ++ rest) = some (value, rest)

/-! ### Blanks -/

theorem skip_blanks {blanks : List Char} (h : ∀ c ∈ blanks, isSpace c = true) (text : List Char) :
    skip (blanks ++ text) = skip text := by
  rw [skip, List.dropWhile_append_of_pos h, skip]

theorem isSpace_newline (depth : Nat) : ∀ c ∈ newline depth, isSpace c = true := by
  intro c hc
  rcases List.mem_cons.1 hc with rfl | hc
  · rfl
  · rw [List.eq_of_mem_replicate hc]
    rfl

theorem expect?_newline (c : Char) (depth : Nat) (text : List Char) :
    expect? c (newline depth ++ text) = expect? c text := by
  rw [expect?, skip_blanks (isSpace_newline depth), expect?]

theorem readValue?_blanks {blanks : List Char} (h : ∀ c ∈ blanks, isSpace c = true) (steps : Nat)
    (text : List Char) : readValue? steps (blanks ++ text) = readValue? steps text := by
  cases steps with
  | zero => rw [readValue?, readValue?]
  | succ steps => rw [readValue?, readValue?, skip_blanks h]

theorem readItems?_newline (steps depth : Nat) (text : List Char) :
    readItems? steps (newline depth ++ text) = readItems? steps text := by
  cases steps with
  | zero => rw [readItems?, readItems?]
  | succ steps => rw [readItems?, readItems?, readValue?_blanks (isSpace_newline depth)]

theorem readMembers?_newline (steps depth : Nat) (text : List Char) :
    readMembers? steps (newline depth ++ text) = readMembers? steps text := by
  cases steps with
  | zero => rw [readMembers?, readMembers?]
  | succ steps => rw [readMembers?, readMembers?, expect?_newline]

/-! ### Leaves -/

theorem skip_cons_of_not_space {c : Char} (h : isSpace c = false) (text : List Char) :
    skip (c :: text) = c :: text := by
  rw [skip, List.dropWhile_cons_of_neg (by simp [h])]

theorem expect?_self {c : Char} (h : isSpace c = false) (text : List Char) :
    expect? c (c :: text) = some text := by
  rw [expect?, skip_cons_of_not_space h]
  exact if_pos rfl

theorem expect?_other {c d : Char} (hd : isSpace d = false) (h : c ≠ d) (text : List Char) :
    expect? c (d :: text) = none := by
  rw [expect?, skip_cons_of_not_space hd]
  exact if_neg h

theorem readsBack_null : ReadsBack null := by
  intro depth steps rest _ hsteps
  obtain ⟨steps, rfl⟩ := Nat.exists_eq_add_of_le' hsteps
  rfl

theorem readsBack_bool (value : Bool) : ReadsBack (bool value) := by
  intro depth steps rest _ hsteps
  obtain ⟨steps, rfl⟩ := Nat.exists_eq_add_of_le' hsteps
  cases value <;> rfl

theorem readsBack_ofText (text : String) : ReadsBack (ofText text) := by
  intro depth steps rest _ hsteps
  have hwrite : write depth (ofText text) ++ rest
      = '"' :: (text.toList.flatMap escapeChar ++ '"' :: rest) := by
    simp [ofText, write, writeString]
  cases steps with
  | zero => simp [ofText, write, writeString] at hsteps
  | succ steps =>
    rw [hwrite, readValue?, skip_cons_of_not_space (by decide)]
    simp only [readString?_written]
    rfl

theorem isSpace_of_isDigit {c : Char} (h : c.isDigit = true) : isSpace c = false := by
  have hne {d : Char} (hd : d.isDigit = false) : c ≠ d := by
    rintro rfl
    rw [hd] at h
    cases h
  simp [isSpace, hne (d := ' ') rfl, hne (d := '\t') rfl, hne (d := '\n') rfl,
    hne (d := '\r') rfl]

/-- A number is written with a digit in front. -/
theorem exists_write_ofNat (n depth : Nat) :
    ∃ c tail, write depth (ofNat n) = c :: tail ∧ c.isDigit = true := by
  rw [ofNat, write]
  cases hdigits : Nat.toDigits 10 n with
  | nil => exact absurd hdigits Nat.toDigits_ne_nil
  | cons c tail =>
    have hmem : c ∈ Nat.toDigits 10 n := by
      rw [hdigits]
      exact List.mem_cons_self
    exact ⟨c, tail, rfl, Numeral.isDigit_of_mem_toDigits hmem⟩

theorem readsBack_ofNat (n : Nat) : ReadsBack (ofNat n) := by
  intro depth steps rest hrest hsteps
  have hread : readNumber? (write depth (ofNat n) ++ rest) = some (Nat.toDigits 10 n, rest) := by
    rw [ofNat, write]
    exact readNumber?_toDigits n hrest
  obtain ⟨c, tail, hwrite, hc⟩ := exists_write_ofNat n depth
  rw [hwrite] at hread hsteps ⊢
  cases steps with
  | zero => simp at hsteps
  | succ steps =>
    rw [List.cons_append] at hread ⊢
    rw [readValue?, skip_cons_of_not_space (isSpace_of_isDigit hc)]
    split
    -- No other value starts with a digit.
    all_goals try
      rename_i hother
      rw [(List.cons_eq_cons.1 hother).1] at hc
      exact absurd hc (by decide)
    rw [hread]
    rfl

/-! ### Arrays and objects

The items behind the first one are written and read one by one, so the induction for them is on the
list; `tail` is what stands between the last of them and the closing bracket.
-/

/-- No value is written with a blank or a closing bracket in front. -/
theorem expect?_write {value : Json} (h : IsProper value) (depth : Nat) (rest : List Char) :
    expect? ']' (write depth value ++ rest) = none := by
  cases h with
  | null => rfl
  | bool value => cases value <;> rfl
  | number n =>
    obtain ⟨c, tail, hwrite, hc⟩ := exists_write_ofNat n depth
    rw [hwrite]
    refine expect?_other (isSpace_of_isDigit hc) ?_ _
    rintro rfl
    exact absurd hc (by decide)
  | string text => rw [ofText, write]; rfl
  | @array items h => cases items <;> rw [write] <;> rfl
  | @object members hkeys h => cases members <;> rw [write] <;> rfl

theorem endsNumber_newline (depth : Nat) (rest : List Char) :
    EndsNumber (newline depth ++ rest) := by
  intro c hc
  cases hc
  decide

theorem length_newline (depth : Nat) : (newline depth).length = 2 * depth + 1 := by
  simp [newline]

theorem readItems?_write {depth : Nat} {tail rest : List Char} (hends : EndsNumber tail)
    (hmore : expect? ',' tail = none) (hclose : expect? ']' tail = some rest) {item : Json}
    {items : List Json} (hback : ∀ value ∈ item :: items, ReadsBack value) {steps : Nat}
    (hsteps : (write depth item ++ writeItems depth items).length < steps) :
    readItems? steps (write depth item ++ (writeItems depth items ++ tail))
      = some (item :: items, rest) := by
  induction items generalizing item steps with
  | nil =>
    cases steps with
    | zero => cases hsteps
    | succ steps =>
      rw [writeItems, List.append_nil] at hsteps
      rw [readItems?, writeItems, List.nil_append,
        hback item (by simp) depth steps tail hends (by omega)]
      simp only [hmore, hclose]
      rfl
  | cons next items ih =>
    cases steps with
    | zero => cases hsteps
    | succ steps =>
      rw [writeItems] at hsteps ⊢
      simp only [List.cons_append, List.append_assoc, List.length_append, List.length_cons,
        length_newline] at hsteps ⊢
      rw [readItems?, hback item (by simp) depth steps _ ?_ (by omega)]
      · simp only [expect?_self (c := ',') (by decide)]
        rw [readItems?_newline, ih (fun value hvalue => hback value (by simp [hvalue])) ?_]
        · rfl
        · rw [List.length_append]
          omega
      · intro c hc
        cases hc
        decide

theorem readsBack_array {items : List Json} (hproper : ∀ item ∈ items, IsProper item)
    (hback : ∀ item ∈ items, ReadsBack item) : ReadsBack (array items) := by
  intro depth steps rest hrest hsteps
  cases items with
  | nil =>
    rw [write] at hsteps
    obtain ⟨steps, rfl⟩ := Nat.exists_eq_add_of_le' hsteps
    rfl
  | cons item items =>
    rw [write] at hsteps ⊢
    cases steps with
    | zero => simp at hsteps
    | succ steps =>
      simp only [List.cons_append, List.append_assoc, List.nil_append, List.length_append,
        List.length_cons, length_newline] at hsteps ⊢
      rw [readValue?, skip_cons_of_not_space (by decide)]
      simp only [expect?_newline, expect?_write (hproper item (by simp)), readItems?_newline]
      have hclose : expect? ']' (newline depth ++ ']' :: rest) = some rest := by
        rw [expect?_newline, expect?_self (by decide)]
      rw [readItems?_write (endsNumber_newline depth _) ?_ hclose hback ?_]
      · rfl
      · rw [expect?_newline, expect?_other (by decide) (by decide)]
      · rw [List.length_append]
        omega

theorem readKey?_write (key : String) (text : List Char) :
    (expect? '"' (writeString (some key) ++ text)).bind readString? = some (some key, text) := by
  have hwrite : writeString (some key) ++ text
      = '"' :: (key.toList.flatMap escapeChar ++ '"' :: text) := by
    simp [writeString]
  rw [hwrite, expect?_self (by decide), Option.bind_some, readString?_written]

theorem readColon?_write (steps : Nat) (text : List Char) :
    (expect? ':' (':' :: ' ' :: text)).bind (readValue? steps) = readValue? steps text := by
  rw [expect?_self (by decide), Option.bind_some]
  rw [← List.singleton_append, readValue?_blanks (by simp [isSpace])]

theorem readMembers?_write {depth : Nat} {tail rest : List Char} (hends : EndsNumber tail)
    (hmore : expect? ',' tail = none) (hclose : expect? '\x7d' tail = some rest)
    {key : Option String} {value : Json} {members : List (Option String × Json)}
    (hkeys : ∀ member ∈ (key, value) :: members, member.1.isSome)
    (hback : ∀ member ∈ (key, value) :: members, ReadsBack member.2) {steps : Nat}
    (hsteps : (writeString key ++ write depth value ++ writeMembers depth members).length < steps) :
    readMembers? steps (writeString key ++ ':' :: ' ' :: (write depth value
      ++ (writeMembers depth members ++ tail))) = some ((key, value) :: members, rest) := by
  obtain ⟨name, rfl⟩ := Option.isSome_iff_exists.1 (hkeys (key, value) (by simp))
  induction members generalizing name value steps with
  | nil =>
    cases steps with
    | zero => cases hsteps
    | succ steps =>
      rw [writeMembers, List.append_nil, List.length_append] at hsteps
      rw [readMembers?, readKey?_write]
      simp only [readColon?_write]
      rw [writeMembers, List.nil_append,
        hback (some name, value) (by simp) depth steps tail hends (by simp only; omega)]
      simp only [hmore, hclose]
      rfl
  | cons next members ih =>
    obtain ⟨first, second⟩ := next
    cases steps with
    | zero => cases hsteps
    | succ steps =>
      have hnext : first.isSome := hkeys (first, second) (by simp)
      obtain ⟨after, rfl⟩ := Option.isSome_iff_exists.1 hnext
      rw [writeMembers] at hsteps ⊢
      simp only [List.cons_append, List.append_assoc, List.length_append, List.length_cons,
        length_newline] at hsteps ⊢
      rw [readMembers?, readKey?_write]
      simp only [readColon?_write]
      rw [hback (some name, value) (by simp) depth steps _ ?_ (by simp only; omega)]
      · simp only [expect?_self (c := ',') (by decide)]
        rw [readMembers?_newline, ih after (fun member hmember => hkeys member (by simp [hmember]))
          (fun member hmember => hback member (by simp [hmember])) ?_]
        · rfl
        · rw [List.length_append, List.length_append]
          omega
      · intro c hc
        cases hc
        decide

theorem readsBack_object {members : List (Option String × Json)}
    (hkeys : ∀ member ∈ members, member.1.isSome)
    (hback : ∀ member ∈ members, ReadsBack member.2) : ReadsBack (object members) := by
  intro depth steps rest hrest hsteps
  cases members with
  | nil =>
    rw [write] at hsteps
    obtain ⟨steps, rfl⟩ := Nat.exists_eq_add_of_le' hsteps
    rfl
  | cons first members =>
    obtain ⟨key, value⟩ := first
    rw [write] at hsteps ⊢
    cases steps with
    | zero => simp at hsteps
    | succ steps =>
      simp only [List.cons_append, List.append_assoc, List.nil_append, List.length_append,
        List.length_cons, length_newline] at hsteps ⊢
      have hkey : ∀ text, expect? '\x7d' (writeString key ++ text) = none := fun text => rfl
      rw [readValue?, skip_cons_of_not_space (by decide)]
      simp only [expect?_newline, hkey, readMembers?_newline]
      have hclose : expect? '\x7d' (newline depth ++ '\x7d' :: rest) = some rest := by
        rw [expect?_newline, expect?_self (by decide)]
      rw [readMembers?_write (endsNumber_newline depth _) ?_ hclose hkeys hback ?_]
      · rfl
      · rw [expect?_newline, expect?_other (by decide) (by decide)]
      · rw [List.length_append, List.length_append]
        omega

/-! ### Documents -/

theorem IsProper.readsBack {value : Json} (h : IsProper value) : ReadsBack value := by
  induction h with
  | null => exact readsBack_null
  | bool value => exact readsBack_bool value
  | number n => exact readsBack_ofNat n
  | string text => exact readsBack_ofText text
  | array hitems ih => exact readsBack_array hitems ih
  | object hkeys hmembers ih => exact readsBack_object hkeys ih

/-- What is written as a document is read from it. -/
theorem read?_write {value : Json} (h : IsProper value) : read? (write 0 value) = some value := by
  have hread := h.readsBack 0 (2 * (write 0 value).length + 2) [] endsNumber_nil (by omega)
  rw [List.append_nil] at hread
  rw [read?, hread]
  rfl

end Json
end SuiteCoverage
