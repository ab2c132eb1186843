import Mathlib.Data.List.Basic

/-! `OsStr::to_string_lossy` on Unix: the bytes of a file name read as UTF-8, every maximal
ill-formed sequence replaced by one U+FFFD, cut exactly where `core::str::Utf8Chunks` cuts it.
A Rust `String` is kept as its UTF-8 bytes, so the decoder maps bytes to bytes. The fact the
keypair import rests on is `toStringLossy_append_ascii`: an ASCII byte ends a pending sequence
just as the end of the input does, so a name decodes piecewise around its dots.

`lossy_iff_toStringLossy_eq` says the decoder follows the replacement rule, stated on the
RFC 3629 grammar (`Lossy`): well-formed characters kept, and each maximal ill-formed subpart
replaced by one U+FFFD. `wellFormed_iff_toStringLossy_eq` says valid UTF-8 is exactly what it
leaves unchanged. -/
namespace Kms.Utf8Lossy

/-- `utf8_char_width`: the length a leading byte announces, 0 for a byte no character starts
with. -/
def utf8CharWidth (b : UInt8) : Nat :=
  if b < 0x80 then 1 else if b < 0xC2 then 0 else if b < 0xE0 then 2
  else if b < 0xF0 then 3 else if b < 0xF5 then 4 else 0

/-- A continuation byte `0x80..=0xBF`; `Utf8Chunks` breaks on `byte as i8 >= -64`. -/
def isCont (c : UInt8) : Bool := 0x80 ≤ c && c ≤ 0xBF

/-- The second byte a lead byte admits: the `(byte, safe_get(i))` arms of `Utf8Chunks::next`
for three- and four-byte characters, which rule out overlong forms, surrogates and values past
U+10FFFF. A two-byte character takes any continuation byte. -/
def secondOk (lead : UInt8) : Nat → UInt8 → Bool
  | 3, c => (lead == 0xE0 && 0xA0 ≤ c && c ≤ 0xBF) || (0xE1 ≤ lead && lead ≤ 0xEC && isCont c) ||
      (lead == 0xED && 0x80 ≤ c && c ≤ 0x9F) || (0xEE ≤ lead && lead ≤ 0xEF && isCont c)
  | 4, c => (lead == 0xF0 && 0x90 ≤ c && c ≤ 0xBF) || (0xF1 ≤ lead && lead ≤ 0xF3 && isCont c) ||
      (lead == 0xF4 && 0x80 ≤ c && c ≤ 0x8F)
  | _, c => isCont c

/-- U+FFFD REPLACEMENT CHARACTER, in UTF-8. -/
def replacement : List UInt8 := [0xEF, 0xBF, 0xBD]

/-- Where the decoder stands: between characters, or inside one whose bytes so far are `seen`
(lead byte first) and whose lead byte announced `width` bytes. -/
inductive State where
  | start
  | pending (seen : List UInt8) (width : Nat)
  deriving DecidableEq, Repr

/-- The check `Utf8Chunks::next` makes on the byte after `seen`. -/
def accepts (seen : List UInt8) (width : Nat) (c : UInt8) : Bool :=
  match seen with
  | [lead] => secondOk lead width c
  | _ => isCont c

/-- A byte read between characters: an ASCII byte stands for itself, a lead byte opens a
character, and any other byte is an ill-formed sequence of its own. -/
def startStep (b : UInt8) : List UInt8 × State :=
  match utf8CharWidth b with
  | 0 => (replacement, .start)
  | 1 => ([b], .start)
  | width => ([], .pending [b] width)

/-- One byte of the loop in `Utf8Chunks::next`. A byte that continues the pending character is
kept. One that does not closes the bytes seen so far, the maximal ill-formed prefix, as one
U+FFFD, and is read again between characters, as `from_utf8_lossy` does with the next chunk. -/
def step : State → UInt8 → List UInt8 × State
  | .start, b => startStep b
  | .pending seen width, c =>
    if accepts seen width c then
      if seen.length + 1 = width then (seen ++ [c], .start) else ([], .pending (seen ++ [c]) width)
    else (replacement ++ (startStep c).1, (startStep c).2)

/-- At the end of the input a character still pending is one more ill-formed sequence. -/
def flush : State → List UInt8
  | .start => []
  | .pending _ _ => replacement

/-- The decoder run over `bytes` from state `s`. -/
def decode : State → List UInt8 → List UInt8
  | s, [] => flush s
  | s, b :: rest => (step s b).1 ++ decode (step s b).2 rest

/-- `OsStr::to_string_lossy`, as the bytes of the string it returns. -/
def toStringLossy (bytes : List UInt8) : List UInt8 := decode .start bytes

example : toStringLossy [0xE2, 0x82, 0xAC, 0x2E] = [0xE2, 0x82, 0xAC, 0x2E] := by decide
example : toStringLossy [0xF0, 0x82, 0x2E] = replacement ++ replacement ++ [0x2E] := by decide

/-- ASCII text as bytes: a string literal of the source, all of whose characters are ASCII. -/
def asciiBytes (text : String) : List UInt8 := text.toList.map fun ch => ch.toNat.toUInt8

/-! ## ASCII bytes end every pending character -/

variable {b c lead : UInt8} {s : State}

private theorem lt_toNat {a b : UInt8} : a < b ↔ a.toNat < b.toNat := Iff.rfl
private theorem le_toNat {a b : UInt8} : a ≤ b ↔ a.toNat ≤ b.toNat := Iff.rfl
private theorem eq_toNat {a b : UInt8} : a = b ↔ a.toNat = b.toNat :=
  ⟨congrArg _, UInt8.toNat.inj⟩
private theorem toNat_lit (n : Nat) : (no_index (OfNat.ofNat n : UInt8)).toNat = n % 256 := rfl

private theorem not_le_of_ascii (k : UInt8) (ascii : c < 0x80) (high : (0x80 : UInt8) ≤ k) :
    ¬ k ≤ c := by
  simp only [lt_toNat, le_toNat, toNat_lit, Nat.reduceMod] at *
  omega

theorem isCont_ascii (ascii : c < 0x80) : isCont c = false := by
  simp [isCont, not_le_of_ascii 0x80 ascii (UInt8.le_refl _)]

theorem secondOk_ascii (ascii : c < 0x80) (width : Nat) : secondOk lead width c = false := by
  have n80 := not_le_of_ascii 0x80 ascii (by decide)
  have n90 := not_le_of_ascii 0x90 ascii (by decide)
  have nA0 := not_le_of_ascii 0xA0 ascii (by decide)
  unfold secondOk
  split <;> simp [isCont_ascii ascii, n80, n90, nA0]

theorem startStep_ascii (ascii : b < 0x80) : startStep b = ([b], .start) := by
  simp [startStep, utf8CharWidth, ascii]

/-- An ASCII byte closes whatever is pending exactly as the end of the input does, and is then
kept as it is. -/
theorem step_ascii (ascii : b < 0x80) : step s b = (flush s ++ [b], .start) := by
  cases s with
  | start => simp [step, flush, startStep_ascii ascii]
  | pending seen width =>
    have refused : accepts seen width b = false := by
      unfold accepts
      split
      · exact secondOk_ascii ascii width
      · exact isCont_ascii ascii
    simp [step, flush, refused, startStep_ascii ascii]

theorem decode_append_ascii (pre rest : List UInt8) (ascii : b < 0x80) :
    decode s (pre ++ b :: rest) = decode s pre ++ decode .start (b :: rest) := by
  induction pre generalizing s with
  | nil => simp [decode, step_ascii ascii, flush]
  | cons x pre ih => simp [decode, ih]

theorem decode_ascii {bytes : List UInt8} (ascii : ∀ x ∈ bytes, x < 0x80) :
    decode .start bytes = bytes := by
  induction bytes with
  | nil => rfl
  | cons x rest ih =>
    simp only [List.mem_cons, forall_eq_or_imp] at ascii
    simp [decode, step_ascii ascii.1, flush, ih ascii.2]

/-- A name that ends in ASCII decodes as its decoded front followed by that ASCII text: the
decoding of the stem in front of `.wrap` is not disturbed by what follows it. -/
theorem toStringLossy_append_ascii (pre suffix : List UInt8) (nonempty : suffix ≠ [])
    (ascii : ∀ x ∈ suffix, x < 0x80) :
    toStringLossy (pre ++ suffix) = toStringLossy pre ++ suffix := by
  obtain ⟨b, rest, rfl⟩ := List.exists_cons_of_ne_nil nonempty
  simp only [toStringLossy, decode_append_ascii pre rest (ascii b (List.mem_cons_self b rest)),
    decode_ascii ascii]

/-! ## Well-formed UTF-8 -/

/-- `UTF8-tail = %x80-BF` (RFC 3629 §4). -/
def Tail (c : UInt8) : Prop := 0x80 ≤ c ∧ c ≤ 0xBF

/-- The first two bytes of a three-byte `UTF8-char`: `%xE0 %xA0-BF`, `%xE1-EC UTF8-tail`,
`%xED %x80-9F`, or `%xEE-EF UTF8-tail`. -/
def ThreeLead (b c : UInt8) : Prop :=
  (b = 0xE0 ∧ 0xA0 ≤ c ∧ c ≤ 0xBF) ∨ (0xE1 ≤ b ∧ b ≤ 0xEC ∧ Tail c) ∨
    (b = 0xED ∧ 0x80 ≤ c ∧ c ≤ 0x9F) ∨ (0xEE ≤ b ∧ b ≤ 0xEF ∧ Tail c)

/-- The first two bytes of a four-byte `UTF8-char`: `%xF0 %x90-BF`, `%xF1-F3 UTF8-tail`, or
`%xF4 %x80-8F`. -/
def FourLead (b c : UInt8) : Prop :=
  (b = 0xF0 ∧ 0x90 ≤ c ∧ c ≤ 0xBF) ∨ (0xF1 ≤ b ∧ b ≤ 0xF3 ∧ Tail c) ∨
    (b = 0xF4 ∧ 0x80 ≤ c ∧ c ≤ 0x8F)

/-- `UTF8-char`: one character of well-formed UTF-8. -/
inductive Utf8Char : List UInt8 → Prop where
  | one {b : UInt8} (ascii : b < 0x80) : Utf8Char [b]
  | two {b c : UInt8} (low : 0xC2 ≤ b) (high : b ≤ 0xDF) (tail : Tail c) : Utf8Char [b, c]
  | three {b c d : UInt8} (lead : ThreeLead b c) (tail : Tail d) : Utf8Char [b, c, d]
  | four {b c d e : UInt8} (lead : FourLead b c) (tail : Tail d) (tail' : Tail e) :
      Utf8Char [b, c, d, e]

/-- `UTF8-octets = *( UTF8-char )`: the bytes a Rust `String` may hold. -/
inductive WellFormed : List UInt8 → Prop where
  | nil : WellFormed []
  | cons {char rest : List UInt8} (head : Utf8Char char) (tail : WellFormed rest) :
      WellFormed (char ++ rest)

theorem WellFormed.append {first second : List UInt8} (wf : WellFormed first)
    (wf' : WellFormed second) : WellFormed (first ++ second) := by
  induction wf with
  | nil => exact wf'
  | cons head _ ih => simpa using WellFormed.cons head ih

theorem WellFormed.of_char {char : List UInt8} (head : Utf8Char char) : WellFormed char := by
  simpa using WellFormed.cons head WellFormed.nil

theorem replacement_wellFormed : WellFormed replacement :=
  .of_char (.three (.inr (.inr (.inr ⟨by decide, by decide, by decide, by decide⟩)))
    ⟨by decide, by decide⟩)

/-! The decoder's byte tests are the grammar's ranges. -/

theorem isCont_iff : isCont c = true ↔ Tail c := by
  simp [isCont, Tail]

theorem secondOk_three_iff : secondOk lead 3 c = true ↔ ThreeLead lead c := by
  simp [secondOk, ThreeLead, isCont_iff, and_assoc, or_assoc]

theorem secondOk_four_iff : secondOk lead 4 c = true ↔ FourLead lead c := by
  simp [secondOk, FourLead, isCont_iff, and_assoc, or_assoc]

theorem utf8CharWidth_le_four (b : UInt8) : utf8CharWidth b ≤ 4 := by
  unfold utf8CharWidth
  split_ifs <;> omega

theorem utf8CharWidth_eq_one_iff : utf8CharWidth b = 1 ↔ b < 0x80 := by
  simp only [utf8CharWidth, lt_toNat, toNat_lit, Nat.reduceMod]
  constructor
  · intro one
    split_ifs at one <;> omega
  · intro ascii
    rw [if_pos ascii]

theorem utf8CharWidth_eq_two_iff : utf8CharWidth b = 2 ↔ 0xC2 ≤ b ∧ b ≤ 0xDF := by
  simp only [utf8CharWidth, lt_toNat, le_toNat, toNat_lit, Nat.reduceMod]
  constructor
  · intro two
    split_ifs at two <;> omega
  · intro range
    split_ifs <;> omega

theorem utf8CharWidth_of_threeLead (lead : ThreeLead b c) : utf8CharWidth b = 3 := by
  simp only [ThreeLead, Tail, eq_toNat, le_toNat, toNat_lit, Nat.reduceMod] at lead
  simp only [utf8CharWidth, lt_toNat, toNat_lit, Nat.reduceMod]
  split_ifs <;> omega

theorem utf8CharWidth_of_fourLead (lead : FourLead b c) : utf8CharWidth b = 4 := by
  simp only [FourLead, Tail, eq_toNat, le_toNat, toNat_lit, Nat.reduceMod] at lead
  simp only [utf8CharWidth, lt_toNat, toNat_lit, Nat.reduceMod]
  split_ifs <;> omega

/-! ## Well-formed text goes through unchanged -/

/-- A well-formed character goes through the decoder byte for byte. -/
theorem decode_char {char rest : List UInt8} (head : Utf8Char char) :
    decode .start (char ++ rest) = char ++ decode .start rest := by
  cases head with
  | one ascii => simp [decode, step, startStep_ascii ascii]
  | @two b c low high tail =>
    have width : utf8CharWidth b = 2 := utf8CharWidth_eq_two_iff.mpr ⟨low, high⟩
    simp [decode, step, startStep, width, accepts, secondOk, isCont_iff.mpr tail]
  | three lead tail =>
    simp [decode, step, startStep, utf8CharWidth_of_threeLead lead, accepts,
      secondOk_three_iff.mpr lead, isCont_iff.mpr tail]
  | four lead tail tail' =>
    simp [decode, step, startStep, utf8CharWidth_of_fourLead lead, accepts,
      secondOk_four_iff.mpr lead, isCont_iff.mpr tail, isCont_iff.mpr tail']

/-- `to_string_lossy` of a name that is valid UTF-8 is the name itself. -/
theorem toStringLossy_of_wellFormed {bytes : List UInt8} (wf : WellFormed bytes) :
    toStringLossy bytes = bytes := by
  induction wf with
  | nil => rfl
  | cons head _ ih => rw [toStringLossy, decode_char head, ← toStringLossy, ih]

/-! ## The output is always well-formed -/

/-- The states the decoder reaches: a pending character is a proper prefix of a well-formed one
its lead byte announced. -/
inductive Reachable : State → Prop where
  | start : Reachable .start
  | lead {b : UInt8} (several : 2 ≤ utf8CharWidth b) : Reachable (.pending [b] (utf8CharWidth b))
  | three {b c : UInt8} (lead : ThreeLead b c) : Reachable (.pending [b, c] 3)
  | four {b c : UInt8} (lead : FourLead b c) : Reachable (.pending [b, c] 4)
  | fourTail {b c d : UInt8} (lead : FourLead b c) (tail : Tail d) :
      Reachable (.pending [b, c, d] 4)

theorem startStep_sound (b : UInt8) :
    WellFormed (startStep b).1 ∧ Reachable (startStep b).2 := by
  unfold startStep
  split
  · exact ⟨replacement_wellFormed, .start⟩
  · rename_i one
    exact ⟨.of_char (.one (utf8CharWidth_eq_one_iff.mp one)), .start⟩
  · rename_i notZero notOne
    have several : 2 ≤ utf8CharWidth b := by
      match width : utf8CharWidth b with
      | 0 => exact absurd width notZero
      | 1 => exact absurd width notOne
      | _ + 2 => omega
    exact ⟨.nil, .lead several⟩

/-- A refused byte: one U+FFFD, then the byte read again between characters. -/
theorem refuse_sound (b : UInt8) :
    WellFormed (replacement ++ (startStep b).1) ∧ Reachable (startStep b).2 :=
  ⟨replacement_wellFormed.append (startStep_sound b).1, (startStep_sound b).2⟩

/-- One step from a reachable state emits well-formed text and reaches a reachable state. -/
theorem step_sound (reach : Reachable s) (x : UInt8) :
    WellFormed (step s x).1 ∧ Reachable (step s x).2 := by
  cases reach with
  | start => exact startStep_sound x
  | @lead b several =>
    have cases : utf8CharWidth b = 2 ∨ utf8CharWidth b = 3 ∨ utf8CharWidth b = 4 := by
      have := utf8CharWidth_le_four b
      omega
    rcases cases with width | width | width <;> rw [width]
    · by_cases tail : isCont x = true
      · have lead := utf8CharWidth_eq_two_iff.mp width
        simp only [step, accepts, secondOk, tail, List.length_singleton, ↓reduceIte,
          List.singleton_append]
        exact ⟨.of_char (.two lead.1 lead.2 (isCont_iff.mp tail)), .start⟩
      · simpa [step, accepts, secondOk, tail] using refuse_sound x
    · by_cases ok : secondOk b 3 x = true
      · simp only [step, accepts, ok, List.length_singleton, ↓reduceIte]
        exact ⟨.nil, .three (secondOk_three_iff.mp ok)⟩
      · simpa [step, accepts, ok] using refuse_sound x
    · by_cases ok : secondOk b 4 x = true
      · simp only [step, accepts, ok, List.length_singleton, ↓reduceIte]
        exact ⟨.nil, .four (secondOk_four_iff.mp ok)⟩
      · simpa [step, accepts, ok] using refuse_sound x
  | three lead =>
    by_cases tail : isCont x = true
    · simp only [step, accepts, tail, ↓reduceIte]
      exact ⟨.of_char (.three lead (isCont_iff.mp tail)), .start⟩
    · simpa [step, accepts, tail] using refuse_sound x
  | four lead =>
    by_cases tail : isCont x = true
    · simp only [step, accepts, tail, ↓reduceIte]
      exact ⟨.nil, .fourTail lead (isCont_iff.mp tail)⟩
    · simpa [step, accepts, tail] using refuse_sound x
  | fourTail lead tail =>
    by_cases tail' : isCont x = true
    · simp only [step, accepts, tail', ↓reduceIte]
      exact ⟨.of_char (.four lead tail (isCont_iff.mp tail')), .start⟩
    · simpa [step, accepts, tail'] using refuse_sound x

theorem decode_wellFormed (reach : Reachable s) (bytes : List UInt8) :
    WellFormed (decode s bytes) := by
  induction bytes generalizing s with
  | nil =>
    cases reach
    · exact .nil
    all_goals exact replacement_wellFormed
  | cons x rest ih =>
    exact (step_sound reach x).1.append (ih (step_sound reach x).2)

/-- Valid UTF-8 is exactly what `to_string_lossy` leaves unchanged. -/
theorem wellFormed_iff_toStringLossy_eq {bytes : List UInt8} :
    WellFormed bytes ↔ toStringLossy bytes = bytes :=
  ⟨toStringLossy_of_wellFormed, fun kept => kept ▸ decode_wellFormed .start bytes⟩

instance : DecidablePred WellFormed := fun bytes =>
  decidable_of_iff (toStringLossy bytes = bytes)
    ⟨fun kept => kept ▸ decode_wellFormed .start bytes, toStringLossy_of_wellFormed⟩

/-! ## The replacement rule

The rule `to_string_lossy` follows, stated on the grammar and not on the decoder: the input is cut
into well-formed characters, which are kept, and maximal ill-formed subparts (Unicode §3.9), each
replaced by one U+FFFD. A maximal subpart is the longest front of what is left that begins some
character but does not end one, or else a single byte that begins none. -/

variable {x : UInt8} {seen part rest : List UInt8} {width : Nat}

/-- `p` begins some character of well-formed UTF-8. -/
def CharPrefix (p : List UInt8) : Prop := ∃ s, Utf8Char (p ++ s)

/-- `part` is a maximal ill-formed subpart at the front of `part ++ rest`. -/
def MaximalSubpart (part rest : List UInt8) : Prop :=
  part ≠ [] ∧ ¬ Utf8Char part ∧ (part.length = 1 ∨ CharPrefix part) ∧
    ∀ c ∈ rest.head?, ¬ CharPrefix (part ++ [c])

/-- `Lossy bytes text`: `text` is `bytes` with every well-formed character kept and every maximal
ill-formed subpart replaced by one U+FFFD. -/
inductive Lossy : List UInt8 → List UInt8 → Prop where
  | nil : Lossy [] []
  | char {char rest text : List UInt8} (head : Utf8Char char) (tail : Lossy rest text) :
      Lossy (char ++ rest) (char ++ text)
  | replace {part rest text : List UInt8} (maximal : MaximalSubpart part rest)
      (tail : Lossy rest text) : Lossy (part ++ rest) (replacement ++ text)

/-- The lead byte of a character announces its length. -/
theorem Utf8Char.lead_width {t : List UInt8} (char : Utf8Char (b :: t)) :
    utf8CharWidth b = t.length + 1 := by
  cases char with
  | one ascii => exact utf8CharWidth_eq_one_iff.mpr ascii
  | two low high _ => exact utf8CharWidth_eq_two_iff.mpr ⟨low, high⟩
  | three lead _ => exact utf8CharWidth_of_threeLead lead
  | four lead _ _ => exact utf8CharWidth_of_fourLead lead

theorem CharPrefix.of_append {p q : List UInt8} (front : CharPrefix (p ++ q)) : CharPrefix p :=
  let ⟨s, char⟩ := front
  ⟨q ++ s, by simpa using char⟩

/-- No character is the front of a longer one. -/
theorem not_charPrefix_of_char {char : List UInt8} (head : Utf8Char char) (x : UInt8) :
    ¬ CharPrefix (char ++ [x]) := by
  rintro ⟨s, longer⟩
  cases char with
  | nil => cases head
  | cons b t =>
    have short := head.lead_width
    have long : utf8CharWidth b = (t ++ [x] ++ s).length + 1 :=
      Utf8Char.lead_width (by simpa using longer)
    simp at long
    omega

private theorem tail80 : Tail 0x80 := ⟨by decide, by decide⟩

/-- A pending state holds the front of the character its lead byte announced, not yet all of it. -/
theorem Reachable.pending_spec (reach : Reachable (.pending seen width)) :
    ∃ b t, seen = b :: t ∧ width = utf8CharWidth b ∧ seen.length < width ∧
      (seen.length = 1 ∨ CharPrefix seen) := by
  cases reach with
  | @lead b several => exact ⟨b, [], rfl, rfl, several, .inl rfl⟩
  | @three b c lead =>
    exact ⟨b, [c], rfl, (utf8CharWidth_of_threeLead lead).symm, by simp,
      .inr ⟨[0x80], .three lead tail80⟩⟩
  | @four b c lead =>
    exact ⟨b, [c], rfl, (utf8CharWidth_of_fourLead lead).symm, by simp,
      .inr ⟨[0x80, 0x80], .four lead tail80 tail80⟩⟩
  | @fourTail b c d lead tail =>
    exact ⟨b, [c, d], rfl, (utf8CharWidth_of_fourLead lead).symm, by simp,
      .inr ⟨[0x80], .four lead tail tail80⟩⟩

theorem Utf8Char.third_tail {d : UInt8} {t : List UInt8} (char : Utf8Char (b :: c :: d :: t)) :
    Tail d := by
  cases char with
  | three _ tail => exact tail
  | four _ tail _ => exact tail

theorem Utf8Char.fourth_tail {d e : UInt8} {t : List UInt8}
    (char : Utf8Char (b :: c :: d :: e :: t)) :
    Tail e := by
  cases char with
  | four _ _ tail => exact tail

/-- The decoder keeps a byte after a pending character exactly when the two begin a character. -/
theorem Reachable.accepts_iff (reach : Reachable (.pending seen width)) :
    accepts seen width x = true ↔ CharPrefix (seen ++ [x]) := by
  cases reach with
  | @lead b several =>
    constructor
    · intro ok
      have cases : utf8CharWidth b = 2 ∨ utf8CharWidth b = 3 ∨ utf8CharWidth b = 4 := by
        have := utf8CharWidth_le_four b
        omega
      simp only [accepts] at ok
      rcases cases with two | three | four <;> rw [‹utf8CharWidth b = _›] at ok
      · have range := utf8CharWidth_eq_two_iff.mp two
        exact ⟨[], .two range.1 range.2 (isCont_iff.mp ok)⟩
      · exact ⟨[0x80], .three (secondOk_three_iff.mp ok) tail80⟩
      · exact ⟨[0x80, 0x80], .four (secondOk_four_iff.mp ok) tail80 tail80⟩
    · rintro ⟨t, char⟩
      cases char with
      | two low high tail =>
        simp [accepts, utf8CharWidth_eq_two_iff.mpr ⟨low, high⟩, secondOk, isCont_iff.mpr tail]
      | three lead _ => simp [accepts, utf8CharWidth_of_threeLead lead, secondOk_three_iff.mpr lead]
      | four lead _ _ => simp [accepts, utf8CharWidth_of_fourLead lead, secondOk_four_iff.mpr lead]
  | three lead =>
    simp only [accepts, isCont_iff]
    exact ⟨fun tail => ⟨[], .three lead tail⟩, fun ⟨_, char⟩ => char.third_tail⟩
  | four lead =>
    simp only [accepts, isCont_iff]
    exact ⟨fun tail => ⟨[0x80], .four lead tail tail80⟩,
      fun ⟨_, char⟩ => char.third_tail⟩
  | fourTail lead tail =>
    simp only [accepts, isCont_iff]
    exact ⟨fun tail' => ⟨[], .four lead tail tail'⟩, fun ⟨_, char⟩ => char.fourth_tail⟩

/-- A pending character is not yet a whole one. -/
theorem Reachable.not_char (reach : Reachable (.pending seen width)) : ¬ Utf8Char seen := by
  obtain ⟨b, t, rfl, rfl, short, -⟩ := reach.pending_spec
  intro char
  have := char.lead_width
  simp at short
  omega

/-- A byte that continues a pending character and reaches the width its lead byte announced
completes a well-formed one. -/
theorem Reachable.complete (reach : Reachable (.pending seen width))
    (ok : accepts seen width x = true) (full : seen.length + 1 = width) :
    Utf8Char (seen ++ [x]) := by
  obtain ⟨u, char⟩ := reach.accepts_iff.mp ok
  obtain ⟨b, t, rfl, rfl, -, -⟩ := reach.pending_spec
  have long : utf8CharWidth b = (t ++ [x] ++ u).length + 1 :=
    Utf8Char.lead_width (by simpa using char)
  have : u = [] := by
    simp at long full
    exact List.eq_nil_of_length_eq_zero (by omega)
  simpa [this] using char

/-- A pending character the input does not continue is a maximal ill-formed subpart. -/
theorem Reachable.maximal (reach : Reachable (.pending seen width))
    (refused : ∀ c ∈ rest.head?, ¬ CharPrefix (seen ++ [c])) : MaximalSubpart seen rest := by
  obtain ⟨b, t, rfl, -, -, front⟩ := reach.pending_spec
  exact ⟨List.cons_ne_nil b t, reach.not_char, front, refused⟩

/-- A pending character the input does not continue becomes one U+FFFD, and what follows is read
between characters. -/
theorem decode_pending_refused (reach : Reachable (.pending seen width))
    (refused : ∀ c ∈ rest.head?, ¬ CharPrefix (seen ++ [c])) :
    decode (.pending seen width) rest = replacement ++ decode .start rest := by
  cases rest with
  | nil => simp [decode, flush]
  | cons c rest =>
    have no : accepts seen width c = false :=
      Bool.eq_false_iff.mpr fun ok => refused c rfl (reach.accepts_iff.mp ok)
    simp [decode, step, no]

/-- The decoder reads the front of a character into a pending state. -/
theorem decode_charPrefix (nonempty : part ≠ []) (notChar : ¬ Utf8Char part)
    (front : CharPrefix part) :
    ∃ width, Reachable (.pending part width) ∧
      ∀ rest, decode .start (part ++ rest) = decode (.pending part width) rest := by
  induction part using List.reverseRecOn with
  | nil => exact absurd rfl nonempty
  | append_singleton q x ih =>
    by_cases first : q = []
    · subst first
      obtain ⟨u, char⟩ := front
      have long : utf8CharWidth x = u.length + 1 := char.lead_width
      have notOne : utf8CharWidth x ≠ 1 := fun one =>
        notChar (.one (utf8CharWidth_eq_one_iff.mp one))
      have several : 2 ≤ utf8CharWidth x := by omega
      refine ⟨utf8CharWidth x, .lead several, fun rest => ?_⟩
      match width : utf8CharWidth x, several with
      | n + 2, _ => simp [decode, step, startStep, width]
    · obtain ⟨width, reach, read⟩ :=
        ih first (not_charPrefix_of_char · x front) front.of_append
      have ok : accepts q width x = true := reach.accepts_iff.mpr front
      have notFull : q.length + 1 ≠ width := fun full => notChar (reach.complete ok full)
      have stepped : step (.pending q width) x = ([], .pending (q ++ [x]) width) := by
        simp [step, ok, notFull]
      have next := (step_sound reach x).2
      rw [stepped] at next
      refine ⟨width, next, fun rest => ?_⟩
      rw [List.append_assoc, List.singleton_append, read, decode, stepped, List.nil_append]

/-- A maximal ill-formed subpart becomes one U+FFFD. -/
theorem decode_maximalSubpart (maximal : MaximalSubpart part rest) :
    decode .start (part ++ rest) = replacement ++ decode .start rest := by
  obtain ⟨nonempty, notChar, single | front, refused⟩ := maximal
  · obtain ⟨b, rfl⟩ := List.length_eq_one.mp single
    match width : utf8CharWidth b with
    | 0 => simp [decode, step, startStep, width]
    | 1 => exact absurd (.one (utf8CharWidth_eq_one_iff.mp width)) notChar
    | n + 2 =>
      have reach : Reachable (.pending [b] (utf8CharWidth b)) := .lead (by omega)
      rw [width] at reach
      simp only [List.singleton_append, decode, step, startStep, width, List.nil_append]
      exact decode_pending_refused reach refused
  · obtain ⟨width, reach, read⟩ := decode_charPrefix nonempty notChar front
    rw [read]
    exact decode_pending_refused reach refused

/-- The bytes a state holds back. -/
def State.held : State → List UInt8
  | .start => []
  | .pending seen _ => seen

/-- From a reachable state, the decoder's output is the rule applied to the bytes held back
followed by the rest of the input. -/
theorem lossy_decode (reach : Reachable s) (rest : List UInt8) :
    Lossy (s.held ++ rest) (decode s rest) := by
  induction rest generalizing s with
  | nil =>
    cases s with
    | start => exact .nil
    | pending seen width =>
      simpa [State.held, decode, flush] using
        Lossy.replace (reach.maximal (by simp) : MaximalSubpart seen []) Lossy.nil
  | cons x rest ih =>
    have fromStart : Lossy (x :: rest) (decode .start (x :: rest)) := by
      simp only [decode, step]
      match width : utf8CharWidth x with
      | 0 =>
        have maximal : MaximalSubpart [x] rest := by
          refine ⟨List.cons_ne_nil x [], fun char => ?_, .inl rfl, fun c _ ⟨u, char⟩ => ?_⟩
          · simp [char.lead_width] at width
          · simp [(Utf8Char.lead_width char : utf8CharWidth x = _)] at width
        simpa [startStep, width] using Lossy.replace maximal (ih .start)
      | 1 =>
        simpa [startStep, width] using
          Lossy.char (.one (utf8CharWidth_eq_one_iff.mp width)) (ih .start)
      | n + 2 =>
        have reach : Reachable (.pending [x] (utf8CharWidth x)) := .lead (by omega)
        rw [width] at reach
        simpa [startStep, width, State.held] using ih reach
    cases s with
    | start => simpa [State.held] using fromStart
    | pending seen width =>
      by_cases ok : accepts seen width x = true
      · by_cases full : seen.length + 1 = width
        · simpa [State.held, decode, step, ok, full] using
            Lossy.char (reach.complete ok full) (ih .start)
        · have next := (step_sound reach x).2
          simp only [step, ok, full, if_true, if_false] at next
          simpa [State.held, decode, step, ok, full] using ih next
      · have refused : ∀ c ∈ (x :: rest).head?, ¬ CharPrefix (seen ++ [c]) := by
          intro c mem
          obtain rfl : x = c := by simpa using mem
          rwa [← reach.accepts_iff]
        simpa [State.held, decode, step, ok] using Lossy.replace (reach.maximal refused) fromStart

/-- The replacement rule determines the output. -/
theorem toStringLossy_of_lossy {bytes text : List UInt8} (rule : Lossy bytes text) :
    toStringLossy bytes = text := by
  induction rule with
  | nil => rfl
  | char head _ ih => rw [toStringLossy, decode_char head, ← toStringLossy, ih]
  | replace maximal _ ih => rw [toStringLossy, decode_maximalSubpart maximal, ← toStringLossy, ih]

/-- **The replacement rule.** `to_string_lossy` keeps every well-formed character and replaces
every maximal ill-formed subpart by one U+FFFD, and does nothing else: its output is the text the
rule gives, for every input. -/
theorem lossy_iff_toStringLossy_eq {bytes text : List UInt8} :
    Lossy bytes text ↔ toStringLossy bytes = text :=
  ⟨toStringLossy_of_lossy, fun decoded => decoded ▸ lossy_decode .start bytes⟩

/-- `Path::to_str`: the path as a `&str`, when its bytes are UTF-8. -/
def toStr (bytes : List UInt8) : Option (List UInt8) := if WellFormed bytes then some bytes else none

theorem toStr_of_wellFormed {bytes : List UInt8} (wf : WellFormed bytes) : toStr bytes = some bytes :=
  if_pos wf

end Kms.Utf8Lossy
