/-
**Every text of a value is read as that value.**

The builder takes the tokens of a value one at a time and then supplies the value to the container
that was open before, whatever that is.  This holds of a value within a value within a value, to any
depth, because the stack is not looked at below the innermost container.

Main results:

* `Json.build_tokens` — **the tokens of a value build the value**, in any container;
* `Json.read?_of_spells` — **every text of a value is read as that value**.
-/

import Conform.Proofs.Json.Scanning

set_option relaxedAutoImplicit false
set_option autoImplicit false

namespace Conform

namespace Json

/-- The builder after some tokens. -/
def build (b : Builder) (ts : List Token) : Option Builder := ts.foldlM feed b

theorem build_cons (b : Builder) (t : Token) (ts : List Token) :
    build b (t :: ts) = (feed b t).bind (build · ts) := rfl

theorem build_append (b : Builder) (ts us : List Token) :
    build b (ts ++ us) = (build b ts).bind (build · us) := List.foldlM_append

theorem foldl_feed (ts : List Token) (b : Option Builder) :
    ts.foldl (fun b t => b.bind (feed · t)) b = b.bind (build · ts) := by
  induction ts generalizing b with
  | nil => cases b <;> rfl
  | cons t ts ih =>
      rw [List.foldl_cons, ih]
      cases b <;> rfl

/-! ### The tokens of a value -/

/-- **That the tokens of a value build the value**: it is supplied to whatever container is open. -/
def Builds (v : Json) : Prop := ∀ stack, build ⟨stack, .value⟩ (tokens v) = supply v stack

/-- An item is put into its array, also where the array might have ended. -/
theorem Builds.item {v : Json} (h : Builds v) {next : Expecting}
    (hnext : next = .value ∨ next = .itemOrEnd) (done : List Json) (stack : List Frame)
    (ts : List Token) :
    build ⟨.array done :: stack, next⟩ (tokens v ++ ts) =
      build ⟨.array (v :: done) :: stack, .commaOrEnd⟩ ts := by
  have hvalue : build ⟨.array done :: stack, next⟩ (tokens v ++ ts) =
      build ⟨.array done :: stack, .value⟩ (tokens v ++ ts) := by
    rcases hnext with rfl | rfl
    · rfl
    · cases v <;> rfl
  rw [hvalue, build_append, h, supply, Option.bind_some]

/-- A member is put into its object, also where the object might have ended. -/
theorem Builds.member {v : Json} (h : Builds v) {next : Expecting}
    (hnext : next = .key ∨ next = .keyOrEnd) (done : List (Option (List Char) × Json))
    (key : Option (List Char)) (stack : List Frame) (ts : List Token) :
    build ⟨.object done :: stack, next⟩ (.string key :: .colon :: (tokens v ++ ts)) =
      build ⟨.object ((key, v) :: done) :: stack, .commaOrEnd⟩ ts := by
  have hkey : feed ⟨.object done :: stack, next⟩ (.string key) =
      some ⟨.member done key :: stack, .colon⟩ := by
    rcases hnext with rfl | rfl <;> rfl
  have hcolon : feed ⟨.member done key :: stack, .colon⟩ .colon =
      some ⟨.member done key :: stack, .value⟩ := rfl
  rw [build_cons, hkey, Option.bind_some, build_cons, hcolon, Option.bind_some, build_append, h,
    supply, Option.bind_some]

mutual

/-- **The tokens of a value build the value**, in any container. -/
theorem build_tokens : ∀ v : Json, Builds v
  | .null | .bool _ | .number | .string _ | .array [] | .object [] =>
      fun _ => Option.bind_fun_some _
  | .array (v :: items) => fun stack => by
      have hopen : feed ⟨stack, .value⟩ .openBracket = some ⟨.array [] :: stack, .itemOrEnd⟩ := rfl
      have hclose : feed ⟨.array (items.reverse ++ [v]) :: stack, .commaOrEnd⟩ .closeBracket =
          supply (.array (items.reverse ++ [v]).reverse) stack := rfl
      rw [tokens, build_cons, hopen, Option.bind_some, itemTokens, List.append_assoc,
        (build_tokens v).item (.inr rfl), build_append, build_laterItemTokens items,
        Option.bind_some, build_cons, hclose, List.reverse_append, List.reverse_reverse]
      exact Option.bind_fun_some _
  | .object ((key, v) :: members) => fun stack => by
      have hopen : feed ⟨stack, .value⟩ .openBrace = some ⟨.object [] :: stack, .keyOrEnd⟩ := rfl
      have hclose : feed ⟨.object (members.reverse ++ [(key, v)]) :: stack, .commaOrEnd⟩
          .closeBrace = supply (.object (members.reverse ++ [(key, v)]).reverse) stack := rfl
      rw [tokens, build_cons, hopen, Option.bind_some, memberTokens, List.cons_append,
        List.cons_append, List.append_assoc, (build_tokens v).member (.inr rfl), build_append,
        build_laterMemberTokens members, Option.bind_some, build_cons, hclose, List.reverse_append,
        List.reverse_reverse]
      exact Option.bind_fun_some _

/-- Further items are put into the array. -/
theorem build_laterItemTokens : ∀ (items done : List Json) (stack : List Frame),
    build ⟨.array done :: stack, .commaOrEnd⟩ (laterItemTokens items) =
      some ⟨.array (items.reverse ++ done) :: stack, .commaOrEnd⟩
  | [], _, _ => rfl
  | v :: items, done, stack => by
      have hcomma : feed ⟨.array done :: stack, .commaOrEnd⟩ .comma =
          some ⟨.array done :: stack, .value⟩ := rfl
      rw [laterItemTokens, build_cons, hcomma, Option.bind_some, (build_tokens v).item (.inl rfl),
        build_laterItemTokens items, List.reverse_cons, List.append_assoc]
      rfl

/-- Further members are put into the object. -/
theorem build_laterMemberTokens : ∀ (members done : List (Option (List Char) × Json))
    (stack : List Frame),
    build ⟨.object done :: stack, .commaOrEnd⟩ (laterMemberTokens members) =
      some ⟨.object (members.reverse ++ done) :: stack, .commaOrEnd⟩
  | [], _, _ => rfl
  | (key, v) :: members, done, stack => by
      have hcomma : feed ⟨.object done :: stack, .commaOrEnd⟩ .comma =
          some ⟨.object done :: stack, .key⟩ := rfl
      rw [laterMemberTokens, build_cons, hcomma, Option.bind_some,
        (build_tokens v).member (.inl rfl), build_laterMemberTokens members, List.reverse_cons,
        List.append_assoc]
      rfl

end

/-- The tokens of a value are the value. -/
theorem ofTokens?_tokens (v : Json) : ofTokens? (tokens v) = some v := by
  rw [ofTokens?, foldl_feed, Option.bind_some, build_tokens]
  rfl

/-- **Every text of a value is read as that value.** -/
theorem read?_of_spells {v : Json} {s : List Char} (h : v.Spells s) : read? s = some v := by
  rw [read?, scan_of_spellsTokens h (parted_tokens v), Option.bind_some, ofTokens?_tokens]

end Json

end Conform
