import Storyboard.Proofs.Table
import Storyboard.Script.Options

/-!
# Bundled options

Letters without values may share a token, and a value may be attached to its letter. Arguments are
given a grammar that knows no state: an option at their front, and what it leaves. A letter in
front of others leaves these as a token of their own, so a bundle says what its letters say one by
one, and reading a long form gives the same options and ends at the same argument.

Main results:

- Definitions `Options.Begins` and `Options.Says`: the options that arguments say.
- Theorem `Options.Says.unique`: arguments say one list of options only.
- Theorem `Options.read_eq_ok_iff`: options are read exactly as arguments say them.
- Theorem `Options.read_longhand`: bundles and attached values are notation only.
-/

namespace Storyboard.Options

/-! ## Templates -/

/-- How a letter stands in a template: with a colon after it if it takes a value. -/
def written : Char × Usage → List Char
  | (c, .bare) => [c]
  | (c, .valued) => [c, ':']

/-- A template is a list of letters, each with a colon after it if it takes a value. -/
def IsTemplate (template : List Char) : Prop :=
  ∃ letters : List (Char × Usage), (∀ l ∈ letters, l.1.isAlpha) ∧
    template = letters.flatMap written

theorem usage?_written_append {flag : Char} (l : Char × Usage) {rest : List Char}
    (hrest : rest.head? ≠ some ':') :
    usage? flag (written l ++ rest) = if l.1 = flag then some l.2 else usage? flag rest := by
  obtain ⟨c, _ | _⟩ := l
  · cases rest with
    | nil => rfl
    | cons d rest =>
        have hd : d ≠ ':' := fun h => hrest (by rw [h]; rfl)
        simp only [written, List.singleton_append]
        rw [usage?]
        intro more hmore
        exact hd (List.cons.inj hmore).1
  · rfl

theorem head?_flatMap_written {letters : List (Char × Usage)}
    (h : ∀ l ∈ letters, l.1.isAlpha) : (letters.flatMap written).head? ≠ some ':' := by
  cases letters with
  | nil => simp
  | cons l letters =>
      have hl : l.1.isAlpha := h l List.mem_cons_self
      rintro hcolon
      obtain ⟨c, _ | _⟩ := l
      all_goals
        simp only [written, List.flatMap_cons, List.cons_append, List.head?_cons,
          Option.some.injEq] at hcolon
        subst hcolon
        exact absurd hl (by decide)

/-- Only letters have a use in a template. -/
theorem IsTemplate.isAlpha {template : List Char} (h : IsTemplate template) {flag : Char}
    {u : Usage} (hu : usage? flag template = some u) : flag.isAlpha := by
  obtain ⟨letters, hletters, rfl⟩ := h
  induction letters with
  | nil => cases hu
  | cons l letters ih =>
      obtain ⟨hl, hrest⟩ := List.forall_mem_cons.mp hletters
      rw [List.flatMap_cons, usage?_written_append l (head?_flatMap_written hrest)] at hu
      split at hu
      · next heq => exact heq ▸ hl
      · exact ih hrest hu

/-! ## Option tokens -/

theorem body?_eq_some_iff {token : String} {body : List Char} :
    body? token = some body ↔ token.toList = '-' :: body ∧ ∃ c ∈ body.head?, c.isAlpha := by
  unfold body?
  split
  · next c rest heq =>
    rw [heq]
    constructor
    · intro h
      split at h
      · next hc =>
        cases h
        exact ⟨rfl, c, rfl, hc⟩
      · cases h
    · rintro ⟨hbody, d, hd, halpha⟩
      cases hbody
      cases hd
      exact if_pos halpha
  · next hother =>
    constructor
    · intro h
      cases h
    · rintro ⟨hbody, d, hd, -⟩
      obtain ⟨rest, rfl⟩ := List.head?_eq_some_iff.mp hd
      exact absurd hbody (hother d rest)

@[simp] theorem body?_ne_nil (token : String) : body? token ≠ some [] := by
  intro h
  obtain ⟨-, c, hc, -⟩ := body?_eq_some_iff.mp h
  cases hc

/-- A token is known by its letters. -/
theorem body?_inj {token token' : String} {body : List Char} (h : body? token = some body)
    (h' : body? token' = some body) : token = token' :=
  String.toList_inj.mp ((body?_eq_some_iff.mp h).1.trans (body?_eq_some_iff.mp h').1.symm)

/-- The token of a single letter. -/
def letter (c : Char) : String := String.ofList ['-', c]

theorem body?_letter {c : Char} (h : c.isAlpha) : body? (letter c) = some [c] :=
  body?_eq_some_iff.mpr ⟨by simp [letter], c, rfl, h⟩

/-! ## What arguments say -/

/-- One option, with a token for its letter and another one for its value if it has any. -/
def spelledOut : Char × OptionValue → List String
  | (c, .present) => [letter c]
  | (c, .value v) => [letter c, v]

/-- A list of options without bundles and without attached values. -/
def longhand (given : List (Char × OptionValue)) : List String := given.flatMap spelledOut

/-- The arguments begin with an option, and these arguments are left. -/
inductive Begins (template : List Char) :
    List String → Char × OptionValue → List String → Prop
  | switch {token : String} {c : Char} {args : List String} (hbody : body? token = some [c])
      (husage : usage? c template = some .bare) : Begins template (token :: args) (c, .present) args
  /-- The letters after one without value are left as a token of their own. -/
  | bundled {token others : String} {c : Char} {cs : List Char} {args : List String}
      (hbody : body? token = some (c :: cs)) (hothers : body? others = some cs)
      (husage : usage? c template = some .bare) :
      Begins template (token :: args) (c, .present) (others :: args)
  /-- The value may be any argument, also one that looks like an option. -/
  | separate {token value : String} {c : Char} {args : List String}
      (hbody : body? token = some [c]) (husage : usage? c template = some .valued) :
      Begins template (token :: value :: args) (c, .value value) args
  | attached {token value : String} {c : Char} {args : List String}
      (hbody : body? token = some (c :: value.toList)) (hvalue : value.toList ≠ [])
      (husage : usage? c template = some .valued) :
      Begins template (token :: args) (c, .value value) args

/-- The arguments say these options, in this order, before the rest of them. -/
inductive Says (template : List Char) :
    List String → List (Char × OptionValue) → List String → Prop
  | rest {rest : List String} (hstop : ∀ token ∈ rest.head?, body? token = none) :
      Says template rest [] rest
  | option {args left rest : List String} {e : Char × OptionValue}
      {given : List (Char × OptionValue)} (hfirst : Begins template args e left)
      (hleft : Says template left given rest) : Says template args (e :: given) rest

section Grammar

variable {template : List Char} {args left left' rest rest' : List String}
  {e e' : Char × OptionValue} {given given' : List (Char × OptionValue)}

theorem Begins.exists_token (h : Begins template args e left) :
    ∃ token more cs, args = token :: more ∧ body? token = some (e.1 :: cs) := by
  cases h with
  | switch hbody | bundled hbody | separate hbody | attached hbody =>
      exact ⟨_, _, _, rfl, hbody⟩

/-- Arguments begin with one option only. -/
theorem Begins.unique (h : Begins template args e left) (h' : Begins template args e' left') :
    e' = e ∧ left' = left := by
  cases h with
  | switch | separate => cases h' <;> simp_all
  | bundled hbody hothers =>
      cases h' with
      | bundled hbody' hothers' =>
          rw [hbody] at hbody'
          cases hbody'
          exact ⟨rfl, by rw [body?_inj hothers' hothers]⟩
      | _ => simp_all
  | attached =>
      cases h' <;> simp_all [String.toList_inj]

namespace Says

/-- What follows the options does not begin with another one. -/
theorem body?_head (h : Says template args given rest) :
    ∀ token ∈ rest.head?, body? token = none := by
  induction h with
  | rest hstop => exact hstop
  | option _ _ ih => exact ih

/-- What follows the options is the end of the arguments. -/
theorem suffix (h : Says template args given rest) : rest <:+ args := by
  induction h with
  | rest => exact List.suffix_refl _
  | option hfirst hleft ih =>
      cases hfirst with
      | switch | attached => exact ih.trans (List.suffix_cons ..)
      | separate => exact (ih.trans (List.suffix_cons ..)).trans (List.suffix_cons ..)
      | bundled _ hothers =>
          -- The other letters are no argument of their own, so the rest begins after them.
          rcases List.suffix_cons_iff.mp ih with rfl | hrest
          · have hnone := hleft.body?_head _ rfl
            rw [hothers] at hnone
            cases hnone
          · exact hrest.trans (List.suffix_cons ..)

/-- Arguments say one list of options only. -/
theorem unique (h : Says template args given rest) (h' : Says template args given' rest') :
    given' = given ∧ rest' = rest := by
  induction h generalizing given' rest' with
  | rest hstop =>
      cases h' with
      | rest => exact ⟨rfl, rfl⟩
      | option hfirst =>
          obtain ⟨token, more, cs, rfl, hbody⟩ := hfirst.exists_token
          rw [hstop token rfl] at hbody
          cases hbody
  | option hfirst hleft ih =>
      cases h' with
      | rest hstop =>
          obtain ⟨token, more, cs, rfl, hbody⟩ := hfirst.exists_token
          rw [hstop token rfl] at hbody
          cases hbody
      | option hfirst' hleft' =>
          obtain ⟨rfl, rfl⟩ := hfirst.unique hfirst'
          obtain ⟨rfl, rfl⟩ := ih hleft'
          exact ⟨rfl, rfl⟩

/-- The long form of what arguments say says the same. -/
theorem says_longhand (htemplate : IsTemplate template) (h : Says template args given rest) :
    Says template (longhand given ++ rest) given rest := by
  induction h with
  | rest hstop => exact .rest hstop
  | option hfirst hleft ih =>
      cases hfirst with
      | switch _ husage | bundled _ _ husage =>
          exact .option (.switch (body?_letter (htemplate.isAlpha husage)) husage) ih
      | separate _ husage | attached _ _ husage =>
          exact .option (.separate (body?_letter (htemplate.isAlpha husage)) husage) ih

end Says

end Grammar

/-! ## Reading -/

section Reading

variable {template : List Char} {args left rest : List String} {o o' : Options}
  {e : Char × OptionValue} {given : List (Char × OptionValue)}

/-- What the letters of the first argument make of the options. -/
theorem readFrom_cons {o : Options} {token : String} {rest : List String} {body : List Char}
    (h : body? token = some body) :
    readFrom template o none (token :: rest) = match readBundle template o body with
      | .error e => .error e
      | .ok (o', waiting) => readFrom template o' waiting rest := by
  rw [readFrom]
  split
  · next hnone =>
    rw [h] at hnone
    cases hnone
  · next hsome =>
    rw [h] at hsome
    cases hsome
    rfl

/-- Reading on after the first option, which has been noted. -/
theorem readFrom_of_begins (h : Begins template args e left) (o : Options) :
    readFrom template o none args = readFrom template (o.insert e.1 e.2) none left := by
  cases h with
  | switch hbody husage =>
      rw [readFrom_cons hbody]
      simp only [readBundle, husage]
  | bundled hbody hothers husage =>
      rw [readFrom_cons hbody, readFrom_cons hothers]
      simp only [readBundle, husage]
  | separate hbody husage =>
      rw [readFrom_cons hbody]
      simp [readBundle, husage, readFrom]
  | attached hbody hvalue husage =>
      rw [readFrom_cons hbody]
      simp [readBundle, husage, hvalue]

theorem readFrom_of_says (h : Says template args given rest) (o : Options) :
    readFrom template o none args = .ok (given.foldl (fun o e => o.insert e.1 e.2) o, rest) := by
  induction h generalizing o with
  | @rest rest hstop =>
      cases rest with
      | nil => rfl
      | cons token rest =>
          rw [readFrom, hstop token rfl]
          rfl
  | option hfirst _ ih => rw [readFrom_of_begins hfirst, ih, List.foldl_cons]

theorem readFrom_of_stop (hstop : ∀ token ∈ args.head?, body? token = none) (o : Options) :
    readFrom template o none args = .ok (o, args) :=
  readFrom_of_says (.rest hstop) o

/-- A bundle that can be read begins with a letter of the template. -/
theorem exists_usage_of_readBundle {c : Char} {cs : List Char} {result : Options × Option Char}
    (h : readBundle template o (c :: cs) = .ok result) : ∃ u, usage? c template = some u := by
  cases husage : usage? c template with
  | none =>
      rw [readBundle, husage] at h
      cases h
  | some u => exact ⟨u, rfl⟩

/-- If a token can be read with what follows it, the arguments begin with an option. -/
theorem exists_begins_of_readFrom (htemplate : IsTemplate template) {token : String}
    {body : List Char} (hbody : body? token = some body) {result : Options × List String}
    (h : readFrom template o none (token :: args) = .ok result) :
    ∃ e left, Begins template (token :: args) e left := by
  obtain ⟨-, c, hc, -⟩ := body?_eq_some_iff.mp hbody
  obtain ⟨cs, rfl⟩ := List.head?_eq_some_iff.mp hc
  rw [readFrom_cons hbody] at h
  cases hbundle : readBundle template o (c :: cs) with
  | error e =>
      rw [hbundle] at h
      cases h
  | ok bundle =>
      obtain ⟨u, husage⟩ := exists_usage_of_readBundle hbundle
      cases u with
      | bare =>
          cases cs with
          | nil => exact ⟨_, _, .switch hbody husage⟩
          | cons d cs =>
              rw [readBundle, husage] at hbundle
              obtain ⟨u, hnext⟩ := exists_usage_of_readBundle hbundle
              have hothers : body? (String.ofList ('-' :: d :: cs)) = some (d :: cs) :=
                body?_eq_some_iff.mpr ⟨by simp, d, rfl, htemplate.isAlpha hnext⟩
              exact ⟨_, _, .bundled hbody hothers husage⟩
      | valued =>
          cases cs with
          | nil =>
              cases args with
              | nil =>
                  simp only [readBundle, husage, List.isEmpty_nil, if_true] at h
                  cases h
              | cons value args => exact ⟨_, _, .separate hbody husage⟩
          | cons d cs =>
              have hattached : body? token = some (c :: (String.ofList (d :: cs)).toList) := by
                rw [hbody, String.toList_ofList]
              exact ⟨_, _, .attached hattached (by simp) husage⟩

/-- What there is to read in arguments. -/
def weight : List String → Nat
  | [] => 0
  | token :: args => token.toList.length + 1 + weight args

theorem Begins.weight_lt (h : Begins template args e left) : weight left < weight args := by
  cases h with
  | switch | attached => simp [weight]
  | separate =>
      simp only [weight]
      omega
  | bundled hbody hothers =>
      have htoken := (body?_eq_some_iff.mp hbody).1
      have hrest := (body?_eq_some_iff.mp hothers).1
      simp [weight, htoken, hrest]

/-- Options that can be read are said. -/
theorem exists_says_of_readFrom (htemplate : IsTemplate template) {n : Nat}
    (hn : weight args = n) (h : readFrom template o none args = .ok (o', rest)) :
    ∃ given, Says template args given rest := by
  induction n using Nat.strongRecOn generalizing args o with
  | _ n ih =>
      by_cases hstop : ∀ token ∈ args.head?, body? token = none
      · rw [readFrom_of_stop hstop] at h
        cases h
        exact ⟨[], .rest hstop⟩
      · push Not at hstop
        obtain ⟨token, hhead, hoption⟩ := hstop
        obtain ⟨body, hbody⟩ := Option.ne_none_iff_exists'.mp hoption
        obtain ⟨args, rfl⟩ := List.head?_eq_some_iff.mp hhead
        obtain ⟨e, left, hfirst⟩ := exists_begins_of_readFrom htemplate hbody h
        rw [readFrom_of_begins hfirst] at h
        obtain ⟨given, hleft⟩ := ih (weight left) (hn ▸ hfirst.weight_lt) rfl h
        exact ⟨e :: given, .option hfirst hleft⟩

/-- Options are read exactly as arguments say them; a letter that is given again has its last
value. -/
theorem read_eq_ok_iff {template : String} (htemplate : IsTemplate template.toList) :
    read template args = .ok (o, rest) ↔
      ∃ given, Says template.toList args given rest ∧ o = Table.ofList given := by
  constructor
  · intro h
    obtain ⟨given, hspelt⟩ := exists_says_of_readFrom htemplate rfl h
    rw [read, readFrom_of_says hspelt] at h
    cases h
    exact ⟨given, hspelt, rfl⟩
  · rintro ⟨given, hspelt, rfl⟩
    exact readFrom_of_says hspelt Table.empty

end Reading

/-- Bundling is notation only. If arguments can be read, there is exactly one list of options that
they say before the rest, which does not begin with an option token; given letter by letter and
with every value in a token of its own, these options and the same rest are read alike, and a
letter that is given again has its last value. -/
theorem read_longhand {template : String} (htemplate : IsTemplate template.toList)
    {args rest : List String} {o : Options} (h : read template args = .ok (o, rest)) :
    rest <:+ args ∧ (∀ token ∈ rest.head?, body? token = none) ∧
    ∃ given,
      (∀ given' rest', Says template.toList args given' rest' ↔ given' = given ∧ rest' = rest) ∧
      read template (longhand given ++ rest) = .ok (o, rest) ∧
      ∀ flag v, o.get? flag = some v ↔
        ∃ front back, given = front ++ (flag, v) :: back ∧ ∀ e ∈ back, e.1 ≠ flag := by
  obtain ⟨given, hspelt, rfl⟩ := (read_eq_ok_iff htemplate).mp h
  refine ⟨hspelt.suffix, hspelt.body?_head, given, ?_, ?_, ?_⟩
  · intro given' rest'
    constructor
    · exact hspelt.unique
    · rintro ⟨rfl, rfl⟩
      exact hspelt
  · exact (read_eq_ok_iff htemplate).mpr ⟨given, hspelt.says_longhand htemplate, rfl⟩
  · intro flag v
    exact Table.get?_ofList_eq_some_iff

/-- A bundle that ends with an attached value, a value that looks like an option, and a letter that
is given again. -/
theorem read_longhand_bundle :
    IsTemplate "hr:".toList ∧
      ∃ o, read "hr:" ["-hr45", "-r", "-h", "-h", "-5", "-h"] = .ok (o, ["-5", "-h"]) ∧
        read "hr:" ["-h", "-r", "45", "-r", "-h", "-h", "-5", "-h"] = .ok (o, ["-5", "-h"]) ∧
        o.get? 'r' = some (.value "-h") := by
  have htemplate : IsTemplate "hr:".toList := ⟨[('h', .bare), ('r', .valued)], by simp, by decide⟩
  have hbare : usage? 'h' "hr:".toList = some .bare := by decide
  have hvalued : usage? 'r' "hr:".toList = some .valued := by decide
  have hbundle : Begins "hr:".toList ["-hr45", "-r", "-h", "-h", "-5", "-h"] ('h', .present)
      ["-r45", "-r", "-h", "-h", "-5", "-h"] := .bundled rfl rfl hbare
  have hattached : Begins "hr:".toList ["-r45", "-r", "-h", "-h", "-5", "-h"] ('r', .value "45")
      ["-r", "-h", "-h", "-5", "-h"] := .attached rfl (by decide) hvalued
  have hspelt : Says "hr:".toList ["-hr45", "-r", "-h", "-h", "-5", "-h"]
      [('h', .present), ('r', .value "45"), ('r', .value "-h"), ('h', .present)] ["-5", "-h"] :=
    .option hbundle <| .option hattached <| .option (.separate rfl hvalued) <|
      .option (.switch rfl hbare) (.rest (by decide))
  obtain ⟨o, ho⟩ : ∃ o, read "hr:" ["-hr45", "-r", "-h", "-h", "-5", "-h"] =
      .ok (o, ["-5", "-h"]) := ⟨_, rfl⟩
  obtain ⟨-, -, given, honly, hlong, hlast⟩ := read_longhand htemplate ho
  obtain ⟨rfl, -⟩ := (honly _ _).mp hspelt
  exact ⟨htemplate, o, ho, hlong, (hlast _ _).mpr
    ⟨[('h', .present), ('r', .value "45")], [('h', .present)], rfl, by decide⟩⟩

end Storyboard.Options
