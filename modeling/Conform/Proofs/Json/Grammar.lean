/-
**The texts of JSON.**

A value of JSON is written as a sequence of tokens, with white space around each of them.  A word or
a mark has one spelling, but a number has many, and so has a string: a character may stand for
itself, after a backslash, or as the digits of its code, in one group of four or in two.  This is
the grammar, apart from the machines that read it.

A string in which half of a surrogate pair stands alone is grammatical too, but it spells no text.

Main definitions:

* `Json.IsSpace`, `Json.IsNumber` — white space, and the texts of numbers;
* `Json.SpellsChar`, `Json.SpellsText` — the spellings of a character and of a text in a string;
* `Json.CodeUnit.Spells`, `Json.SpellsUnits` — those of a code unit, and of several;
* `Json.Token.Spells` — the spellings of a token;
* `Json.SpellsTokens` — the texts of a list of tokens;
* `Json.tokens` — the tokens of a value;
* `Json.Spells` — **the texts of a value**.

Main results:

* `Json.parted_tokens` — in the tokens of a value a mark stands between any two others;
* `Json.exists_units_iff` — **a string spells a text exactly when its code units are one**.
-/

import Conform.Json.Value
import Mathlib.Data.List.Chain

set_option relaxedAutoImplicit false
set_option autoImplicit false

namespace Conform

namespace Json

/-! ### White space and numbers -/

/-- **White space**: spaces, tabs, line feeds and carriage returns. -/
def IsSpace (s : List Char) : Prop := ∀ c ∈ s, c = ' ' ∨ c = '\t' ∨ c = '\n' ∨ c = '\r'

/-- Digits, of which there is at least one. -/
structure IsDigits (s : List Char) : Prop where
  nonempty : s ≠ []
  digits : ∀ c ∈ s, c.isDigit = true

/-- The whole part of a number: a zero alone, or digits that do not begin with zero. -/
def IsWhole (s : List Char) : Prop := s = ['0'] ∨ IsDigits s ∧ s.head? ≠ some '0'

/-- The fraction of a number, which may be missing. -/
def IsFraction (s : List Char) : Prop := s = [] ∨ ∃ digits, IsDigits digits ∧ s = '.' :: digits

/-- The exponent of a number, which may be missing. -/
def IsExponent (s : List Char) : Prop :=
  s = [] ∨ ∃ letter sign digits, (letter = 'e' ∨ letter = 'E') ∧
    (sign = [] ∨ sign = ['+'] ∨ sign = ['-']) ∧ IsDigits digits ∧ s = letter :: (sign ++ digits)

/-- **The texts of numbers.** -/
def IsNumber (s : List Char) : Prop :=
  ∃ sign whole fraction exponent, (sign = [] ∨ sign = ['-']) ∧ IsWhole whole ∧
    IsFraction fraction ∧ IsExponent exponent ∧ s = sign ++ (whole ++ (fraction ++ exponent))

/-! ### Strings -/

/-- The letters that stand for a character after a backslash, each with its character. -/
def shorthands : List (Char × Char) :=
  [('\x22', '\x22'), ('\\', '\\'), ('/', '/'), ('b', '\x08'), ('f', '\x0c'), ('n', '\n'),
    ('r', '\r'), ('t', '\t')]

/-- Four hexadecimal digits, in letters of either case, and the number that they are. -/
structure IsHex (n : Nat) (s : List Char) : Prop where
  length : s.length = 4
  digits : ∀ c ∈ s, Text.isHexDigit c = true
  value : Text.hexValue s = n

/-- **The spellings of a character in a string**: itself, unless it is a quote, a backslash or a
control character; a letter after a backslash; its code; or, beyond the codes of four digits, the
two halves of its code. -/
inductive SpellsChar (c : Char) : List Char → Prop
  | plain (quote : c ≠ '\x22') (backslash : c ≠ '\\') (control : 0x20 ≤ c.toNat) :
      SpellsChar c [c]
  | short {letter : Char} (h : (letter, c) ∈ shorthands) : SpellsChar c ['\\', letter]
  | hex {digits : List Char} (h : IsHex c.toNat digits) : SpellsChar c ('\\' :: 'u' :: digits)
  | pair {high low : Nat} {first second : List Char} (hhigh : high < 0x400) (hlow : low < 0x400)
      (code : c.toNat = 0x10000 + high * 0x400 + low) (hfirst : IsHex (0xD800 + high) first)
      (hsecond : IsHex (0xDC00 + low) second) :
      SpellsChar c ('\\' :: 'u' :: (first ++ '\\' :: 'u' :: second))

/-- **The spellings of a text in a string**: those of its characters, one after another. -/
inductive SpellsText : List Char → List Char → Prop
  | nil : SpellsText [] []
  | cons {c : Char} {text s rest : List Char} (hc : SpellsChar c s) (h : SpellsText text rest) :
      SpellsText (c :: text) (s ++ rest)

/-- A text without quotes, backslashes and control characters is a spelling of itself. -/
theorem spellsText_self {text : List Char}
    (h : ∀ c ∈ text, c ≠ '\x22' ∧ c ≠ '\\' ∧ 0x20 ≤ c.toNat) : SpellsText text text := by
  induction text with
  | nil => exact .nil
  | cons c text ih =>
      obtain ⟨hquote, hbackslash, hcontrol⟩ := h c (List.mem_cons_self ..)
      exact .cons (.plain hquote hbackslash hcontrol)
        (ih fun c hc => h c (List.mem_cons_of_mem _ hc))

/-- The spellings of a code unit, which may be half of a pair. -/
inductive CodeUnit.Spells : CodeUnit → List Char → Prop
  | plain {c : Char} (quote : c ≠ '\x22') (backslash : c ≠ '\\') (control : 0x20 ≤ c.toNat) :
      CodeUnit.Spells (.char c) [c]
  | short {letter c : Char} (h : (letter, c) ∈ shorthands) :
      CodeUnit.Spells (.char c) ['\\', letter]
  | hex {n : Nat} {digits : List Char} (h : IsHex n digits) :
      CodeUnit.Spells (.ofNat n) ('\\' :: 'u' :: digits)

/-- The spellings of code units, one after another: what may stand between the quotes of a
string. -/
inductive SpellsUnits : List CodeUnit → List Char → Prop
  | nil : SpellsUnits [] []
  | cons {u : CodeUnit} {us : List CodeUnit} {s rest : List Char} (hu : u.Spells s)
      (h : SpellsUnits us rest) : SpellsUnits (u :: us) (s ++ rest)

/-! ### Tokens and values -/

/-- **The spellings of a token.** -/
inductive Token.Spells : Token → List Char → Prop
  | openBrace : Token.Spells .openBrace ['\x7b']
  | closeBrace : Token.Spells .closeBrace ['\x7d']
  | openBracket : Token.Spells .openBracket ['[']
  | closeBracket : Token.Spells .closeBracket [']']
  | colon : Token.Spells .colon [':']
  | comma : Token.Spells .comma [',']
  | null : Token.Spells .null ['n', 'u', 'l', 'l']
  | true : Token.Spells (.bool true) ['t', 'r', 'u', 'e']
  | false : Token.Spells (.bool false) ['f', 'a', 'l', 's', 'e']
  | number {s : List Char} (h : IsNumber s) : Token.Spells .number s
  | text {text s : List Char} (h : SpellsText text s) :
      Token.Spells (.string (some text)) ('\x22' :: (s ++ ['\x22']))
  /-- Half of a pair stands alone in the string, so that it spells no text. -/
  | halves {us : List CodeUnit} {s : List Char} (h : SpellsUnits us s)
      (alone : ∀ text, ¬SpellsText text s) :
      Token.Spells (.string none) ('\x22' :: (s ++ ['\x22']))

/-- **The texts of a list of tokens**: their spellings, with any white space around them. -/
inductive SpellsTokens : List Token → List Char → Prop
  | nil {space : List Char} (hspace : IsSpace space) : SpellsTokens [] space
  | cons {t : Token} {ts : List Token} {space s rest : List Char} (hspace : IsSpace space)
      (ht : t.Spells s) (h : SpellsTokens ts rest) : SpellsTokens (t :: ts) (space ++ (s ++ rest))

mutual

/-- **The tokens of a value.** -/
def tokens : Json → List Token
  | .null => [.null]
  | .bool b => [.bool b]
  | .number => [.number]
  | .string content => [.string content]
  | .array items => .openBracket :: (itemTokens items ++ [.closeBracket])
  | .object members => .openBrace :: (memberTokens members ++ [.closeBrace])

/-- The tokens of the items of an array, with commas between them. -/
def itemTokens : List Json → List Token
  | [] => []
  | v :: items => tokens v ++ laterItemTokens items

/-- The tokens of further items, with a comma before each of them. -/
def laterItemTokens : List Json → List Token
  | [] => []
  | v :: items => .comma :: (tokens v ++ laterItemTokens items)

/-- The tokens of the members of an object, with commas between them. -/
def memberTokens : List (Option (List Char) × Json) → List Token
  | [] => []
  | (key, v) :: members => .string key :: .colon :: (tokens v ++ laterMemberTokens members)

/-- The tokens of further members, with a comma before each of them. -/
def laterMemberTokens : List (Option (List Char) × Json) → List Token
  | [] => []
  | (key, v) :: members =>
      .comma :: .string key :: .colon :: (tokens v ++ laterMemberTokens members)

end

/-- **The texts of a value.** -/
def Spells (v : Json) (s : List Char) : Prop := SpellsTokens (tokens v) s

/-! ### Marks -/

/-- The tokens that end wherever they stand. -/
def Token.IsMark : Token → Prop
  | .openBrace | .closeBrace | .openBracket | .closeBracket | .colon | .comma => True
  | .null | .bool _ | .number | .string _ => False

/-- **Lists of tokens in which a mark stands between any two others.** -/
def Parted (ts : List Token) : Prop := ts.IsChain fun t u => t.IsMark ∨ u.IsMark

theorem Parted.cons {t : Token} {ts : List Token} (ht : t.IsMark) (h : Parted ts) :
    Parted (t :: ts) :=
  List.isChain_cons.2 ⟨fun _ _ => .inl ht, h⟩

/-- What is parted may be followed by what is parted and does not begin with a word. -/
theorem Parted.append {ts us : List Token} (hts : Parted ts) (hus : Parted us)
    (h : ∀ u ∈ us.head?, u.IsMark) : Parted (ts ++ us) :=
  List.isChain_append.2 ⟨hts, hus, fun _ _ u hu => .inr (h u hu)⟩

theorem isMark_head?_laterItemTokens (items : List Json) :
    ∀ t ∈ (laterItemTokens items).head?, t.IsMark := by
  cases items with
  | nil => simp [laterItemTokens]
  | cons v items => simp [laterItemTokens, Token.IsMark]

theorem isMark_head?_laterMemberTokens (members : List (Option (List Char) × Json)) :
    ∀ t ∈ (laterMemberTokens members).head?, t.IsMark := by
  cases members with
  | nil => simp [laterMemberTokens]
  | cons m members => simp [laterMemberTokens, Token.IsMark]

/-- A key is parted from its value by the colon. -/
theorem Parted.member {key : Option (List Char)} {ts : List Token} (h : Parted ts) :
    Parted (.string key :: .colon :: ts) :=
  List.isChain_cons_cons.2 ⟨.inr trivial, h.cons trivial⟩

/-- What is parted may be followed by a mark. -/
theorem Parted.concat {t : Token} {ts : List Token} (h : Parted ts) (ht : t.IsMark) :
    Parted (ts ++ [t]) :=
  h.append (List.isChain_singleton t) fun _ hu => Option.mem_some.1 hu ▸ ht

mutual

/-- **In the tokens of a value a mark stands between any two others.** -/
theorem parted_tokens : ∀ v : Json, Parted (tokens v)
  | .null | .bool _ | .number | .string _ => List.isChain_singleton _
  | .array items => ((parted_itemTokens items).concat (t := .closeBracket) trivial).cons trivial
  | .object members =>
      ((parted_memberTokens members).concat (t := .closeBrace) trivial).cons trivial

theorem parted_itemTokens : ∀ items : List Json, Parted (itemTokens items)
  | [] => List.isChain_nil
  | v :: items => (parted_tokens v).append (parted_laterItemTokens items)
      (isMark_head?_laterItemTokens items)

theorem parted_laterItemTokens : ∀ items : List Json, Parted (laterItemTokens items)
  | [] => List.isChain_nil
  | v :: items => ((parted_tokens v).append (parted_laterItemTokens items)
      (isMark_head?_laterItemTokens items)).cons trivial

theorem parted_memberTokens :
    ∀ members : List (Option (List Char) × Json), Parted (memberTokens members)
  | [] => List.isChain_nil
  | (_, v) :: members => ((parted_tokens v).append (parted_laterMemberTokens members)
      (isMark_head?_laterMemberTokens members)).member

theorem parted_laterMemberTokens :
    ∀ members : List (Option (List Char) × Json), Parted (laterMemberTokens members)
  | [] => List.isChain_nil
  | (_, v) :: members => (((parted_tokens v).append (parted_laterMemberTokens members)
      (isMark_head?_laterMemberTokens members)).member).cons trivial

end

/-! ### Code units and characters -/

theorem hexDigit?_lt {c : Char} {n : Nat} (h : Text.hexDigit? c = some n) : n < 16 := by
  unfold Text.hexDigit? at h
  simp only [Char.le_def, UInt32.le_iff_toNat_le, Char.toNat_val, Char.reduceToNat] at h
  split at h
  · have hn := Option.some.inj h
    omega
  · split at h
    · have hn := Option.some.inj h
      omega
    · split at h
      · have hn := Option.some.inj h
        omega
      · cases h

/-- Four hexadecimal digits are a number of sixteen bits. -/
theorem IsHex.lt {n : Nat} {s : List Char} (h : IsHex n s) : n < 0x10000 := by
  have hfold : ∀ (s : List Char) (v : Nat),
      s.foldl (fun n c => 16 * n + (Text.hexDigit? c).getD 0) v < (v + 1) * 16 ^ s.length := by
    intro s
    induction s with
    | nil => simp
    | cons c s ih =>
        intro v
        have hdigit : (Text.hexDigit? c).getD 0 < 16 := by
          cases hc : Text.hexDigit? c with
          | none => decide
          | some d => exact hexDigit?_lt hc
        refine (ih (16 * v + (Text.hexDigit? c).getD 0)).trans_le ?_
        rw [List.length_cons, Nat.pow_succ', ← Nat.mul_assoc]
        exact Nat.mul_le_mul_right _ (by omega)
  have hvalue := hfold s 0
  rw [h.length] at hvalue
  rw [← h.value]
  simpa [Text.hexValue] using hvalue

theorem toNat_ofNat {n : Nat} (h : n.isValidChar) : (Char.ofNat n).toNat = n := by
  rw [Char.ofNat, dif_pos h]
  rfl

/-- Which codes are those of characters. -/
theorem CodeUnit.ofNat_eq_char_iff {n : Nat} {c : Char} (hn : n < 0x10000) :
    CodeUnit.ofNat n = .char c ↔ n = c.toNat := by
  have hc : c.toNat < 0xD800 ∨ 0xDFFF < c.toNat ∧ c.toNat < 0x110000 := c.valid
  unfold CodeUnit.ofNat
  split
  · refine ⟨fun h => (nomatch h), fun h => ?_⟩
    omega
  · split
    · refine ⟨fun h => (nomatch h), fun h => ?_⟩
      omega
    · have hvalid : n.isValidChar := by
        unfold Nat.isValidChar
        omega
      rw [CodeUnit.char.injEq]
      constructor
      · rintro rfl
        exact (toNat_ofNat hvalid).symm
      · rintro rfl
        exact c.ofNat_toNat

/-- Which codes are those of first halves. -/
theorem CodeUnit.ofNat_eq_high_iff {n high : Nat} :
    CodeUnit.ofNat n = .high high ↔ high < 0x400 ∧ n = 0xD800 + high := by
  unfold CodeUnit.ofNat
  split
  · rw [CodeUnit.high.injEq]
    omega
  · split <;> simp <;> omega

/-- Which codes are those of second halves. -/
theorem CodeUnit.ofNat_eq_low_iff {n low : Nat} :
    CodeUnit.ofNat n = .low low ↔ low < 0x400 ∧ n = 0xDC00 + low := by
  unfold CodeUnit.ofNat
  split
  · simp; omega
  · split
    · rw [CodeUnit.low.injEq]
      omega
    · simp; omega

/-- The character of a pair of halves. -/
theorem pair_eq_iff {high low : Nat} {c : Char} (hhigh : high < 0x400) (hlow : low < 0x400) :
    pair high low = c ↔ c.toNat = 0x10000 + high * 0x400 + low := by
  have hvalid : (0x10000 + high * 0x400 + low).isValidChar := by
    unfold Nat.isValidChar
    omega
  constructor
  · rintro rfl
    exact toNat_ofNat hvalid
  · intro h
    rw [pair, ← h, Char.ofNat_toNat]

/-! ### Spellings by code units -/

/-- The spellings of a unit that is a character are those of the character. -/
theorem CodeUnit.Spells.char {c : Char} {s : List Char} (h : (CodeUnit.char c).Spells s) :
    SpellsChar c s := by
  generalize hu : CodeUnit.char c = u at h
  cases h with
  | plain quote backslash control =>
      cases hu
      exact .plain quote backslash control
  | short h =>
      cases hu
      exact .short h
  | hex h =>
      obtain rfl := (CodeUnit.ofNat_eq_char_iff h.lt).1 hu.symm
      exact .hex h

/-- The first half of a pair is spelled by its code. -/
theorem CodeUnit.Spells.high {high : Nat} {s : List Char} (h : (CodeUnit.high high).Spells s) :
    high < 0x400 ∧ ∃ digits, IsHex (0xD800 + high) digits ∧ s = '\\' :: 'u' :: digits := by
  generalize hu : CodeUnit.high high = u at h
  cases h with
  | plain | short => cases hu
  | @hex n digits h =>
      obtain ⟨hlt, rfl⟩ := CodeUnit.ofNat_eq_high_iff.1 hu.symm
      exact ⟨hlt, digits, h, rfl⟩

/-- The second half of a pair is spelled by its code. -/
theorem CodeUnit.Spells.low {low : Nat} {s : List Char} (h : (CodeUnit.low low).Spells s) :
    low < 0x400 ∧ ∃ digits, IsHex (0xDC00 + low) digits ∧ s = '\\' :: 'u' :: digits := by
  generalize hu : CodeUnit.low low = u at h
  cases h with
  | plain | short => cases hu
  | @hex n digits h =>
      obtain ⟨hlt, rfl⟩ := CodeUnit.ofNat_eq_low_iff.1 hu.symm
      exact ⟨hlt, digits, h, rfl⟩

theorem spellsUnits_cons_iff {u : CodeUnit} {us : List CodeUnit} {s : List Char} :
    SpellsUnits (u :: us) s ↔
      ∃ first rest, u.Spells first ∧ SpellsUnits us rest ∧ s = first ++ rest := by
  constructor
  · rintro (_ | ⟨hu, h⟩)
    exact ⟨_, _, hu, h, rfl⟩
  · rintro ⟨first, rest, hu, h, rfl⟩
    exact .cons hu h

/-- A character has one unit or two, whichever way it is spelled. -/
theorem SpellsChar.exists_units {c : Char} {s : List Char} (h : SpellsChar c s) :
    ∃ us, SpellsUnits us s ∧ ∀ rest, resolve (us ++ rest) = (resolve rest).map (c :: ·) := by
  have hsingle : ∀ {u : CodeUnit}, u = .char c → u.Spells s →
      ∃ us, SpellsUnits us s ∧ ∀ rest, resolve (us ++ rest) = (resolve rest).map (c :: ·) := by
    rintro u rfl hu
    exact ⟨[.char c], spellsUnits_cons_iff.2 ⟨s, [], hu, .nil, (List.append_nil s).symm⟩,
      fun _ => rfl⟩
  cases h with
  | plain quote backslash control => exact hsingle rfl (.plain quote backslash control)
  | short h => exact hsingle rfl (.short h)
  | hex h => exact hsingle ((CodeUnit.ofNat_eq_char_iff h.lt).2 rfl) (.hex h)
  | @pair high low first second hhigh hlow code hfirst hsecond =>
      have hunits := SpellsUnits.cons (.hex hfirst) (.cons (.hex hsecond) .nil)
      rw [CodeUnit.ofNat_eq_high_iff.2 ⟨hhigh, rfl⟩, CodeUnit.ofNat_eq_low_iff.2 ⟨hlow, rfl⟩,
        List.append_nil] at hunits
      refine ⟨_, hunits, fun rest => ?_⟩
      rw [← (pair_eq_iff hhigh hlow).2 code]
      rfl

theorem spellsUnits_append {us vs : List CodeUnit} {s t : List Char} (hs : SpellsUnits us s)
    (ht : SpellsUnits vs t) : SpellsUnits (us ++ vs) (s ++ t) := by
  induction hs with
  | nil => exact ht
  | cons hu _ ih =>
      rw [List.append_assoc]
      exact .cons hu ih

/-- **A string spells a text exactly when its code units are one.** -/
theorem exists_units_iff {text s : List Char} :
    (∃ us, SpellsUnits us s ∧ resolve us = some text) ↔ SpellsText text s := by
  constructor
  · rintro ⟨us, hus, htext⟩
    induction us using resolve.induct generalizing text s with
    | case1 =>
        cases hus
        cases htext
        exact .nil
    | case2 c rest ih =>
        obtain ⟨first, later, hc, hlater, rfl⟩ := spellsUnits_cons_iff.1 hus
        obtain ⟨text, hrest, rfl⟩ := Option.map_eq_some_iff.1 htext
        exact .cons hc.char (ih hlater hrest)
    | case3 high low rest ih =>
        obtain ⟨first, later, hhigh, hlater, rfl⟩ := spellsUnits_cons_iff.1 hus
        obtain ⟨second, others, hlow, hothers, rfl⟩ := spellsUnits_cons_iff.1 hlater
        obtain ⟨text, hrest, rfl⟩ := Option.map_eq_some_iff.1 htext
        obtain ⟨hhighlt, digits, hfirst, rfl⟩ := hhigh.high
        obtain ⟨hlowlt, digits', hsecond, rfl⟩ := hlow.low
        have hcode := (pair_eq_iff hhighlt hlowlt).1 rfl
        simpa using SpellsText.cons (.pair hhighlt hlowlt hcode hfirst hsecond) (ih hothers hrest)
    | case4 high rest hlone => simp [resolve] at htext
    | case5 low rest => simp [resolve] at htext
  · intro h
    induction h with
    | nil => exact ⟨[], .nil, rfl⟩
    | cons hc _ ih =>
        obtain ⟨us, hus, hresolve⟩ := hc.exists_units
        obtain ⟨later, hlater, htext⟩ := ih
        exact ⟨us ++ later, spellsUnits_append hus hlater, by rw [hresolve, htext]; rfl⟩

end Json

end Conform
