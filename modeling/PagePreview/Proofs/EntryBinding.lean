import PagePreview.Sanitized
import PagePreview.Lowering
import PagePreview.Proofs.DefaultEntry
import PagePreview.Proofs.Sanitized
import PagePreview.Proofs.Script.Binding
import PagePreview.Proofs.Script.Erasure

/-!
# The binding of a nameless entry

A page whose entry has no name of its own is given a `const` of the fallback name. Nothing looks for
that name among the declarations of the page or of its stand-ins, so the unit fails to lower, as one
that declares the name twice, exactly if something else in its block has a value of that name.
-/

namespace PagePreview
open Text Script

namespace Entry

variable {fallback : String} {body : List Char}

theorem locate_fabricated (form : (locate fallback body).form = .fabricated) :
    locate fallback body = fabricate fallback body := by
  unfold locate at form ⊢
  dsimp only at form ⊢
  generalize chosen : (Option.map _ _ <|> _ : Option Entry) = found at form ⊢
  cases found with
  | none => rfl
  | some entry =>
    rw [Option.getD_some] at form
    simp only [Option.orElse_eq_orElse, Option.orElse_eq_or, Option.or_eq_some_iff,
      Option.map_eq_some_iff] at chosen
    rcases chosen with ⟨x, -, rfl⟩ | ⟨-, ⟨⟨name, rest⟩, -, rfl⟩ | ⟨-, ⟨x, -, rfl⟩ | ⟨-, h |
      ⟨-, ⟨f, -, rfl⟩ | ⟨-, f, -, rfl⟩⟩⟩⟩⟩
    case inr.inr.inr.inl =>
      obtain ⟨before, tail, -, exposes⟩ := exposes_value h
      exact absurd (form ▸ exposes.form_not_mem) (by simp [guesses])
    all_goals cases form

theorem locate_bound
    (form : (locate fallback body).form = .anonymousDefault ∨ (locate fallback body).form = .fabricated) :
    (locate fallback body).name = fallback ∧ ∃ before value, (locate fallback body).body =
      before ++ ("const " ++ fallback ++ " = ").toList ++ value := by
  rcases form with anonymous | fabricated
  · rcases locate_cases fallback body with ⟨before, tail, -, exposes⟩ | ⟨-, guessed⟩
    · generalize locate fallback body = entry at anonymous exposes ⊢
      cases exposes with
      | value => exact ⟨rfl, before, tail, rfl⟩
      | _ => cases anonymous
    · simp [anonymous, guesses] at guessed
  · rw [locate_fabricated fabricated]
    refine ⟨rfl, if (trimEnd body).isEmpty then [] else trimEnd body ++ ['\n'], "() => null;\n".toList, ?_⟩
    have literal : " = () => null;\n" = " = " ++ "() => null;\n" := rfl
    rw [fabricate, literal, ← String.append_assoc, String.toList_append, ← List.append_assoc]

end Entry

namespace Sanitized

variable {config : Config} {code : String} {s : Sanitized}

theorem ofSource_bound (done : ofSource config code = .ok s)
    (form : s.entryForm = .anonymousDefault ∨ s.entryForm = .fabricated) :
    s.entryName = config.fallbackEntryName ∧ ∃ before value, s.body = String.ofList
      (Entry.stripExports (before ++ ("const " ++ config.fallbackEntryName ++ " = ").toList ++ value)) := by
  obtain ⟨scan, -, made⟩ := ofSource_scanned done
  rw [made.entryForm] at form
  obtain ⟨name, before, value, body⟩ := Entry.locate_bound form
  refine ⟨made.entryName.trans name, before, value, ?_⟩
  rw [← body, ← made.body, String.ofList_toList]

theorem ofSource_of_toOption (made : (ofSource config code).toOption = some s) :
    ofSource config code = .ok s := by
  cases h : ofSource config code with
  | error e => simp [h, Except.toOption] at made
  | ok s' => simpa [h, Except.toOption] using made

def prologue (standIns : String) : String :=
  "'use strict';\nconst " ++ runtimeHandle ++ " = " ++ runtimeParameter ++ ";\nconst \x7b " ++
    ", ".intercalate boundHooks ++ " \x7d = " ++ runtimeHandle ++ ";\n\x7b\n" ++ closedLine standIns

theorem prologue_plain : prologue "" =
    "'use strict';\nconst React = __ReactRuntime;\nconst \x7b Fragment, useState, useEffect, useLayoutEffect, " ++
      "useMemo, useCallback, useRef, useReducer, useId, useContext \x7d = React;\n\x7b\n" := by
  decide +kernel

variable {body name : String} {form : EntryForm} {references : List Reference}

/-- A unit without stand-ins, text by text. Each text is written out, so that its letters need not be
worked out from how texts are stored. -/
theorem assemble_plain (ends : endsLine body.toList = true) :
    assemble ⟨"", body, name, form, references⟩ =
      "'use strict';\nconst React = __ReactRuntime;\nconst \x7b Fragment, useState, useEffect, useLayoutEffect, " ++
        "useMemo, useCallback, useRef, useReducer, useId, useContext \x7d = React;\n\x7b\n" ++ body ++
        ("if (typeof " ++ name ++ " === 'undefined') \x7b throw new Error('" ++ "__missing_entry__:" ++ name ++
          "'); \x7d\nreturn " ++ name ++ ";\n") ++ "\x7d\n" := by
  have pieces : assemble ⟨"", body, name, form, references⟩ =
      prologue "" ++ (if endsLine body.toList then body else body ++ "\n") ++ entryReturn name ++ "\x7d\n" := rfl
  rw [pieces, if_pos ends, prologue_plain]
  rfl

end Sanitized

namespace Script

/-- Units are read as scripts in which a `return` may stand outside of functions. -/
def unitDialect : Dialect := { isModule := false, looseReturn := true }

/-- Trees of programs have a bound on their depth that goes with the length of the source. -/
theorem read_depth {dialect : Dialect} {source : List Char} {p : Program} {faults : List Fault}
    (read : Program.read dialect source = ⟨some p, faults⟩) : p.depth = 8 * (source.length + 2) := by
  unfold Program.read at read
  dsimp only at read
  split at read
  · cases read
    rfl
  · cases read

def readUnit? (unit : String) : Option Program :=
  match Program.read unitDialect unit.toList with
  | ⟨some p, []⟩ => some p
  | _ => none

theorem read_of_readUnit? {unit : String} {p : Program} (h : readUnit? unit = some p) :
    Program.read unitDialect unit.toList = ⟨some p, []⟩ := by
  unfold readUnit? at h
  split at h
  · rename_i q read
    cases h
    exact read
  · cases h

def readLetters? (letters : List Char) : Option Program :=
  match Program.read unitDialect letters with
  | ⟨some p, []⟩ => some p
  | _ => none

theorem readUnit?_eq (unit : String) : readUnit? unit = readLetters? unit.toList := rfl

def Bound.ofBody? : List Stmt → Option Bound
  | [a, b, c, .block (.vars false .const [.declarator (.identifier name) (some value)] :: after)] =>
    some { outer := [a, b, c], before := [], name, value, after }
  | _ => none

theorem Bound.eq_body {body : List Stmt} {u : Bound} (h : ofBody? body = some u) : body = u.body := by
  unfold ofBody? at h
  split at h
  · cases h
    rfl
  · cases h

end Script

theorem redeclared_not_mem (name : String) : Check.redeclared name ∉ Erasure.complaints := by
  have others : ∀ message ∈ Erasure.complaints, message.toList.take 2 ≠ ['I', 'd'] := by
    decide +kernel
  intro mem
  refine others _ mem ?_
  rw [Check.redeclared]
  simp

/-- A unit that is read fails to lower because a name is declared twice exactly if the check says so. -/
theorem lower_redeclared_iff {unit name : String} {p : Program}
    (read : Program.read unitDialect unit.toList = ⟨some p, []⟩) :
    lower unit = .error (.lowering (Check.redeclared name)) ↔
      Check.complaint? (ElementCall.program p).1 = some (Check.redeclared name) := by
  have read' : Program.read { isModule := false, looseReturn := true } unit.toList = ⟨some p, []⟩ := read
  unfold lower
  rw [read']
  dsimp only
  cases complaint : Check.complaint? (ElementCall.program p).1 with
  | some message => simp
  | none =>
    cases erased : Erasure.program (ElementCall.program p).1 with
    | ok plain => simp
    | error message =>
      have plainly := Erasure.program_error erased
      have other : message ≠ Check.redeclared name := by
        rintro rfl
        exact redeclared_not_mem name plainly
      simp [other]

theorem lower_of_clash {unit name : String}
    (clash : ((readUnit? unit).bind fun p => Check.complaint? (ElementCall.program p).1) =
      some (Check.redeclared name)) : lower unit = .error (.lowering (Check.redeclared name)) := by
  obtain ⟨p, whole, complains⟩ := Option.bind_eq_some_iff.mp clash
  exact (lower_redeclared_iff (read_of_readUnit? whole)).mpr complains

/-- An entry without a name of its own is bound to the fallback name. Where the unit with that binding
is read, and passes the check without it, it fails to lower because the name is declared twice exactly
if the name is taken: if something else in the block has a value of that name, as any other
declaration of it there has. -/
theorem lower_bound_redeclared_iff (config : Config) (code : String) (s : Sanitized)
    (done : Sanitized.ofSource config code = .ok s)
    (form : s.entryForm = .anonymousDefault ∨ s.entryForm = .fabricated)
    (bindable : Bindable config.fallbackEntryName) :
    s.entryName = config.fallbackEntryName ∧
    (∃ before value, s.body = String.ofList (Entry.stripExports
      (before ++ ("const " ++ config.fallbackEntryName ++ " = ").toList ++ value))) ∧
    ∀ (p : Program) (u : Bound), u.name = s.entryName →
      Program.read unitDialect s.assemble.toList = ⟨some p, []⟩ →
      (ElementCall.program p).1.body = u.body →
      Check.complaint? { p with body := u.unbound } = none →
      (lower s.assemble = .error (.lowering (Check.redeclared s.entryName)) ↔
        u.isTaken p.depth = true) ∧
      ∀ a ∈ u.rest, Check.DeclaresValue s.entryName a.uncommented → u.isTaken p.depth = true := by
  obtain ⟨name, text⟩ := Sanitized.ofSource_bound done form
  refine ⟨name, text, fun p u bound read shape free => ?_⟩
  have deep : 7 ≤ p.depth := by
    rw [read_depth read]
    omega
  have bindable' : Bindable u.name := by rwa [bound, name]
  have lowered : (ElementCall.program p).1 = { p with body := u.body } := by
    rw [← shape]
    rfl
  rw [lower_redeclared_iff read, lowered, ← bound]
  refine ⟨?_, fun a mem declares => u.isTaken_of_mem mem declares deep free⟩
  rw [u.complaint?_body bindable' deep free]
  cases u.isTaken p.depth <;> simp

theorem lower_bound_arrow :
    ∃ (s : Sanitized) (p : Program) (u : Bound),
      Sanitized.ofSource {} "export default () => null;\n" = .ok s ∧
      s.entryForm = .anonymousDefault ∧ u.name = s.entryName ∧
      Program.read unitDialect s.assemble.toList = ⟨some p, []⟩ ∧
      (ElementCall.program p).1.body = u.body ∧
      Check.complaint? { p with body := u.unbound } = none ∧
      (lower s.assemble = .error (.lowering (Check.redeclared s.entryName)) ↔
        u.isTaken p.depth = true) := by
  obtain ⟨s, made, form, named, free⟩ : ∃ s : Sanitized,
      (Sanitized.ofSource {} "export default () => null;\n").toOption = some s ∧
      s.entryForm = .anonymousDefault ∧ s.entryName = "WebsitePage" ∧
      ((readUnit? s.assemble).bind fun p => (Bound.ofBody? (ElementCall.program p).1.body).map
        fun u => (u.name, Check.complaint? { p with body := u.unbound })) =
          some ("WebsitePage", none) :=
    ⟨⟨"", "const WebsitePage = () => null;\n", "WebsitePage", .anonymousDefault, []⟩,
      by decide +kernel, rfl, rfl, by
        rw [readUnit?_eq, Sanitized.assemble_plain (by rw [String.toList_ofList]; rfl)]
        simp only [String.toList_append]
        repeat rw [String.toList_ofList]
        decide +kernel⟩
  have done := Sanitized.ofSource_of_toOption made
  obtain ⟨p, whole, bound⟩ := Option.bind_eq_some_iff.mp free
  obtain ⟨u, begins, same⟩ := Option.map_eq_some_iff.mp bound
  obtain ⟨same, unbound⟩ := Prod.mk.inj same
  have same' : u.name = s.entryName := same.trans named.symm
  have read := read_of_readUnit? whole
  have shape := Bound.eq_body begins
  obtain ⟨-, -, exact⟩ := lower_bound_redeclared_iff {} _ s done (.inl form) (by decide)
  exact ⟨s, p, u, done, form, same', read, shape, unbound, (exact p u same' read shape unbound).1⟩

/-- A page that holds no more than a class of the fallback name is given an entry of that name too. -/
theorem lower_bound_class :
    ∃ s, Sanitized.ofSource {} "class WebsitePage \x7b\x7d\n" = .ok s ∧ s.entryForm = .fabricated ∧
      s.body = "class WebsitePage \x7b\x7d\nconst WebsitePage = () => null;\n" ∧
      lower s.assemble = .error (.lowering (Check.redeclared "WebsitePage")) := by
  obtain ⟨s, made, form, body, clash⟩ : ∃ s : Sanitized,
      (Sanitized.ofSource {} "class WebsitePage \x7b\x7d\n").toOption = some s ∧
      s.entryForm = .fabricated ∧
      s.body = "class WebsitePage \x7b\x7d\nconst WebsitePage = () => null;\n" ∧
      ((readUnit? s.assemble).bind fun p => Check.complaint? (ElementCall.program p).1) =
        some (Check.redeclared "WebsitePage") :=
    ⟨⟨"", "class WebsitePage \x7b\x7d\nconst WebsitePage = () => null;\n", "WebsitePage",
      .fabricated, []⟩, by decide +kernel, rfl, rfl, by
        rw [readUnit?_eq, Sanitized.assemble_plain (by rw [String.toList_ofList]; rfl)]
        simp only [String.toList_append]
        repeat rw [String.toList_ofList]
        decide +kernel⟩
  exact ⟨s, Sanitized.ofSource_of_toOption made, form, body, lower_of_clash clash⟩

end PagePreview
