import UrlRewrite.Config.Directive

/-!
# Lines

A directive on one line is a keyword, in any case, and fields with spaces or tabs between them. A
field of a rule or a condition is either quoted, from one double quote to the next, or a run without
blanks. A text may be read both ways; the quoted reading is tried first, and a reading counts only
if the whole line can be read. `fieldReadings` therefore gives all readings of a field, the
preferred one first.

The flags come last, in square brackets. Behind them there may be blanks up to the end of the line.
-/

namespace UrlRewrite.Line

/-- What stands behind at least one space or tab. -/
def gap? : Text → Option Text
  | [] => none
  | c :: rest => if isGap c then some (rest.dropWhile isGap) else none

/-- What stands behind blanks at the end of a line; the line feed itself is left. -/
def lineEnd? (s : Text) : Option Text :=
  match s.dropWhile fun c => isGap c || c == '\r' with
  | [] => some []
  | c :: rest => if c = '\n' then some (c :: rest) else none

/-- A run of characters that are not blank. -/
def bare? (s : Text) : Option (Text × Text) := s.takeRun? (!isBlank ·)

/-- A field between double quotes, the quotes included. -/
def quoted? : Text → Option (Text × Text)
  | '"' :: s => (Text.splitFirst '"' s).map fun (body, rest) => ('"' :: body ++ ['"'], rest)
  | _ => none

/-- The readings of a field, with what follows them. -/
def fieldReadings (s : Text) : List (Text × Text) := (quoted? s).toList ++ (bare? s).toList

/-- The reading of an integer comparison whose operand stands apart. -/
def comparison? (s : Text) : Option (Text × Text) := do
  let (_, body) := Pattern.takeNegation s
  let (_, rest) ← Comparison.takeMnemonic? body
  let operand ← gap? rest
  -- only the length of the operand matters here, since the text is read as a pattern later
  let unsigned := match operand with
    | '+' :: digits => digits
    | '-' :: digits => digits
    | _ => operand
  match unsigned.takeWhile isDigit with
  | [] => none
  | _ =>
    let behind := unsigned.dropWhile isDigit
    some (s.take (s.length - behind.length), behind)

/-- The readings of the pattern of a condition. -/
def patternReadings (s : Text) : List (Text × Text) := (comparison? s).toList ++ fieldReadings s

/-- A character that may stand between the brackets around flags. -/
def isFlagChar (c : Char) : Bool := c != ']' && c != '\r' && c != '\n'

/-- Flags in square brackets, behind a gap. -/
def flags? (s : Text) : Option (Text × Text) := (gap? s).bind (Text.bracketed? isFlagChar)

/-- The flags, if there are any, and the end of the line. -/
def flagsAndEnd? (s : Text) : Option (Text × Text) :=
  match (flags? s).bind fun (flags, rest) => (lineEnd? rest).map (flags, ·) with
  | some r => some r
  | none => (lineEnd? s).map ([], ·)

/-- A field without the double quotes around it. -/
def unquote (field : Text) : Text :=
  match field with
  | '"' :: body => if body.getLast? = some '"' then body.dropLast else field
  | _ => field

/-- The fields of a line with two fields and flags, and what follows the line. -/
structure Fields where
  first : Text
  second : Text
  flags : Text
  rest : Text
deriving DecidableEq, Repr

/-- A line with two fields and flags. -/
def twoFields? (keyword : String) (second : Text → List (Text × Text)) (s : Text) :
    Option Fields := do
  let s ← gap? (← Text.afterKeyword? keyword.toList s)
  (fieldReadings s).findSome? fun (a, s) => do
    let s ← gap? s
    (second s).findSome? fun (b, s) => do
      let (flags, rest) ← flagsAndEnd? s
      some ⟨unquote a, unquote b, unquote flags, rest⟩

/-- A line with one bare field. -/
def oneField? (keyword : String) (s : Text) : Option (Text × Text) := do
  let s ← gap? (← Text.afterKeyword? keyword.toList s)
  let (field, s) ← bare? s
  some (unquote field, ← lineEnd? s)

/-- A line with `on` or `off`. -/
def switch? (keyword : String) (s : Text) : Option (Bool × Text) := do
  let s ← gap? (← Text.afterKeyword? keyword.toList s)
  [("on", true), ("off", false)].findSome? fun (word, on) => do
    some (on, ← lineEnd? (← Text.afterKeyword? word.toList s))

/-- A directive on a line of its own at the beginning of a text, and what follows it. -/
def read (kind : DirectiveKind) (s : Text) : Except ConfigError (Option (Directive × Text)) :=
  match kind with
  | .serverName => .ok ((oneField? kind.name s).map fun (name, rest) => (.serverName name, rest))
  | .rewriteEngine => .ok ((switch? kind.name s).map fun (on, rest) => (.rewriteEngine on, rest))
  | .rewriteCond =>
    match twoFields? kind.name patternReadings s with
    | none => .ok none
    | some f => (Condition.build f.first f.second f.flags).map fun c => some (.condition c, f.rest)
  | .rewriteRule =>
    match twoFields? kind.name fieldReadings s with
    | none => .ok none
    | some f => (Rule.build f.first f.second f.flags).map fun r => some (.rule r, f.rest)
  -- blocks are not read from lines
  | .virtualHost => .ok none
  | .ifModule => .ok none

/-- What a line is read as: each kind of directive comes from a line of its own form, which says
what is left behind it. -/
inductive Reads : DirectiveKind → Text → Directive → Text → Prop where
  | serverName {s name rest : Text}
      (hfield : oneField? DirectiveKind.serverName.name s = some (name, rest)) :
      Reads .serverName s (.serverName name) rest
  | rewriteEngine {s rest : Text} {on : Bool}
      (hswitch : switch? DirectiveKind.rewriteEngine.name s = some (on, rest)) :
      Reads .rewriteEngine s (.rewriteEngine on) rest
  | condition {s : Text} {f : Fields} {c : Condition}
      (hfields : twoFields? DirectiveKind.rewriteCond.name patternReadings s = some f)
      (hbuild : Condition.build f.first f.second f.flags = .ok c) :
      Reads .rewriteCond s (.condition c) f.rest
  | rule {s : Text} {f : Fields} {r : Rule}
      (hfields : twoFields? DirectiveKind.rewriteRule.name fieldReadings s = some f)
      (hbuild : Rule.build f.first f.second f.flags = .ok r) :
      Reads .rewriteRule s (.rule r) f.rest

/-- Whatever is read is read like that, and the other way round. -/
theorem read_eq_some_iff {kind : DirectiveKind} {s rest : Text} {d : Directive} :
    read kind s = .ok (some (d, rest)) ↔ Reads kind s d rest := by
  constructor
  · intro h
    cases kind with
    | serverName =>
      obtain ⟨⟨name, behind⟩, hfield, heq⟩ := Option.map_eq_some_iff.1 (Except.ok.inj h)
      obtain ⟨rfl, rfl⟩ := Prod.mk.inj heq
      exact .serverName hfield
    | rewriteEngine =>
      obtain ⟨⟨on, behind⟩, hswitch, heq⟩ := Option.map_eq_some_iff.1 (Except.ok.inj h)
      obtain ⟨rfl, rfl⟩ := Prod.mk.inj heq
      exact .rewriteEngine hswitch
    | rewriteCond =>
      rw [read] at h
      split at h
      · simp at h
      · rename_i f hfields
        obtain ⟨c, hbuild, heq⟩ := map_eq_ok_iff.1 h
        obtain ⟨rfl, rfl⟩ := Prod.mk.inj (Option.some.inj heq)
        exact .condition hfields hbuild
    | rewriteRule =>
      rw [read] at h
      split at h
      · simp at h
      · rename_i f hfields
        obtain ⟨r, hbuild, heq⟩ := map_eq_ok_iff.1 h
        obtain ⟨rfl, rfl⟩ := Prod.mk.inj (Option.some.inj heq)
        exact .rule hfields hbuild
    | virtualHost => simp [read] at h
    | ifModule => simp [read] at h
  · rintro (hfield | hswitch | ⟨hfields, hbuild⟩ | ⟨hfields, hbuild⟩)
    · rw [read, hfield, Option.map_some]
    · rw [read, hswitch, Option.map_some]
    · simp only [read, hfields, hbuild, Except.map]
    · simp only [read, hfields, hbuild, Except.map]

/-- The kinds of directives that stand on a line of their own. -/
def kinds : List DirectiveKind := [.rewriteCond, .rewriteRule, .rewriteEngine, .serverName]

/-- A directive of any such kind. -/
def readAny (s : Text) : List DirectiveKind → Except ConfigError (Option (Directive × Text))
  | [] => .ok none
  | kind :: kinds =>
    match read kind s with
    | .ok none => readAny s kinds
    | r => r

/-! ### What follows

Whatever a reader takes off the beginning of a text, the rest is what follows it. -/

section Rest

variable {s field rest : Text}

/-- A gap has a first character, and the others are passed over. -/
theorem exists_of_gap? (h : gap? s = some rest) :
    ∃ c t, s = c :: t ∧ isGap c = true ∧ t.dropWhile isGap = rest := by
  cases s with
  | nil => simp [gap?] at h
  | cons c t =>
    simp only [gap?, Option.ite_none_right_eq_some, Option.some.injEq] at h
    exact ⟨c, t, rfl, h⟩

/-- Something is taken off a text by a gap. -/
theorem isRest_of_gap? (h : gap? s = some rest) : rest.IsRest s := by
  obtain ⟨c, t, rfl, -, rfl⟩ := exists_of_gap? h
  exact .of_cons (List.dropWhile_suffix isGap)

theorem suffix_of_lineEnd? (h : lineEnd? s = some rest) : rest <:+ s := by
  have hdrop := List.dropWhile_suffix (l := s) fun c => isGap c || c == '\r'
  rw [lineEnd?] at h
  split at h
  · obtain rfl := Option.some.inj h
    exact List.nil_suffix
  · rename_i c behind hbehind
    rw [hbehind] at hdrop
    obtain ⟨-, rfl⟩ : _ ∧ c :: behind = rest := by simpa using h
    exact hdrop

theorem isRest_of_bare? (h : bare? s = some (field, rest)) : rest.IsRest s :=
  Text.isRest_of_takeRun? h

theorem isRest_of_quoted? (h : quoted? s = some (field, rest)) : rest.IsRest s := by
  rw [quoted?.eq_def] at h
  split at h
  · obtain ⟨⟨body, behind⟩, hsplit, heq⟩ := Option.map_eq_some_iff.1 h
    obtain ⟨-, rfl⟩ := Prod.mk.inj heq
    exact .of_cons (Text.isRest_of_splitFirst hsplit).suffix
  · simp at h

/-- Something is taken off a text by each reading of a field. -/
theorem isRest_of_fieldReadings (h : (field, rest) ∈ fieldReadings s) : rest.IsRest s := by
  simp only [fieldReadings, List.mem_append, Option.mem_toList] at h
  exact h.elim isRest_of_quoted? isRest_of_bare?

theorem suffix_of_comparison? (h : comparison? s = some (field, rest)) : rest <:+ s := by
  simp only [comparison?, Option.bind_eq_bind, Option.bind_eq_some_iff] at h
  obtain ⟨⟨c, behind⟩, hmnemonic, operand, hgap, h⟩ := h
  have hoperand : operand <:+ s := by
    have hbehind : behind <:+ (Pattern.takeNegation s).2 :=
      Comparison.eq_append_of_takeMnemonic? hmnemonic ▸ List.suffix_append _ behind
    exact (isRest_of_gap? hgap).suffix.trans (hbehind.trans (Pattern.takeNegation_suffix s))
  split at h
  · simp at h
  · obtain ⟨-, rfl⟩ := Prod.mk.inj (Option.some.inj h)
    refine (List.dropWhile_suffix isDigit).trans (List.IsSuffix.trans ?_ hoperand)
    split
    · exact List.suffix_cons _ _
    · exact List.suffix_cons _ _
    · exact List.suffix_refl _

theorem suffix_of_patternReadings (h : (field, rest) ∈ patternReadings s) : rest <:+ s := by
  rw [patternReadings, List.mem_append, Option.mem_toList] at h
  exact h.elim suffix_of_comparison? fun h => (isRest_of_fieldReadings h).suffix

theorem suffix_of_flags? (h : flags? s = some (field, rest)) : rest <:+ s := by
  obtain ⟨behind, hgap, hflags⟩ := Option.bind_eq_some_iff.1 h
  exact (Text.isRest_of_bracketed? hflags).suffix.trans (isRest_of_gap? hgap).suffix

theorem suffix_of_flagsAndEnd? (h : flagsAndEnd? s = some (field, rest)) : rest <:+ s := by
  rw [flagsAndEnd?] at h
  split at h
  · rename_i r hboth
    obtain rfl := Option.some.inj h
    obtain ⟨⟨flags, behind⟩, hflags, hmap⟩ := Option.bind_eq_some_iff.1 hboth
    obtain ⟨behind', hend, heq⟩ := Option.map_eq_some_iff.1 hmap
    obtain ⟨-, rfl⟩ := Prod.mk.inj heq
    exact (suffix_of_lineEnd? hend).trans (suffix_of_flags? hflags)
  · obtain ⟨behind, hend, heq⟩ := Option.map_eq_some_iff.1 h
    obtain ⟨-, rfl⟩ := Prod.mk.inj heq
    exact suffix_of_lineEnd? hend

/-- Something is taken off a text by a line of two fields. -/
theorem isRest_of_twoFields? {keyword : String} {second : Text → List (Text × Text)}
    (hsecond : ∀ {s field rest : Text}, (field, rest) ∈ second s → rest <:+ s) {f : Fields}
    (h : twoFields? keyword second s = some f) : f.rest.IsRest s := by
  simp only [twoFields?, Option.bind_eq_bind, Option.bind_eq_some_iff] at h
  obtain ⟨s₁, hkeyword, s₂, hgap, h⟩ := h
  obtain ⟨⟨a, s₃⟩, ha, h⟩ := List.exists_of_findSome?_eq_some h
  obtain ⟨s₄, hgap', h⟩ := Option.bind_eq_some_iff.1 h
  obtain ⟨⟨b, s₅⟩, hb, h⟩ := List.exists_of_findSome?_eq_some h
  obtain ⟨⟨flags, s₆⟩, hflags, heq⟩ := Option.bind_eq_some_iff.1 h
  obtain rfl := Option.some.inj heq
  have hfields : s₆ <:+ s₂ :=
    (suffix_of_flagsAndEnd? hflags).trans ((hsecond hb).trans
      ((isRest_of_gap? hgap').suffix.trans (isRest_of_fieldReadings ha).suffix))
  exact .of_suffix hfields
    ((isRest_of_gap? hgap).trans_suffix (Text.suffix_of_afterKeyword? hkeyword))

theorem isRest_of_oneField? {keyword : String} (h : oneField? keyword s = some (field, rest)) :
    rest.IsRest s := by
  simp only [oneField?, Option.bind_eq_bind, Option.bind_eq_some_iff] at h
  obtain ⟨s₁, hkeyword, s₂, hgap, ⟨a, s₃⟩, ha, s₄, hend, heq⟩ := h
  obtain ⟨-, rfl⟩ := Prod.mk.inj (Option.some.inj heq)
  have hfield : s₄ <:+ s₂ := (suffix_of_lineEnd? hend).trans (isRest_of_bare? ha).suffix
  exact .of_suffix hfield
    ((isRest_of_gap? hgap).trans_suffix (Text.suffix_of_afterKeyword? hkeyword))

theorem isRest_of_switch? {keyword : String} {on : Bool} (h : switch? keyword s = some (on, rest)) :
    rest.IsRest s := by
  simp only [switch?, Option.bind_eq_bind, Option.bind_eq_some_iff] at h
  obtain ⟨s₁, hkeyword, s₂, hgap, h⟩ := h
  obtain ⟨⟨word, value⟩, -, h⟩ := List.exists_of_findSome?_eq_some h
  simp only [Option.bind_eq_some_iff] at h
  obtain ⟨s₃, hword, s₄, hend, heq⟩ := h
  obtain ⟨-, rfl⟩ := Prod.mk.inj (Option.some.inj heq)
  have hword : s₄ <:+ s₂ := (suffix_of_lineEnd? hend).trans (Text.suffix_of_afterKeyword? hword)
  exact .of_suffix hword
    ((isRest_of_gap? hgap).trans_suffix (Text.suffix_of_afterKeyword? hkeyword))

/-- Something is taken off a text by every directive that is read from a line. -/
theorem isRest_of_read {kind : DirectiveKind} {d : Directive}
    (h : read kind s = .ok (some (d, rest))) :
    rest.IsRest s := by
  -- each line takes its name at least, so that something is always read
  cases read_eq_some_iff.1 h with
  | serverName hfield => exact isRest_of_oneField? hfield
  | rewriteEngine hswitch => exact isRest_of_switch? hswitch
  | condition hfields _ => exact isRest_of_twoFields? suffix_of_patternReadings hfields
  | rule hfields _ =>
    exact isRest_of_twoFields? (fun h => (isRest_of_fieldReadings h).suffix) hfields

/-- Something is taken off a text whichever directive is read. -/
theorem isRest_of_readAny {kinds : List DirectiveKind} {d : Directive}
    (h : readAny s kinds = .ok (some (d, rest))) : rest.IsRest s := by
  induction kinds with
  | nil => simp [readAny] at h
  | cons kind kinds ih =>
    rw [readAny] at h
    split at h
    · exact ih h
    · exact isRest_of_read h

end Rest

end Line

namespace Condition

/-- Reads a condition directive. -/
def read (s : Text) : Except ConfigError Condition :=
  match Line.twoFields? "RewriteCond" Line.patternReadings (Text.trim s) with
  | none => .error (.missingField .rewriteCond "cond_pattern")
  | some f => build f.first f.second f.flags

end Condition

namespace Rule

/-- Reads a rule directive. -/
def read (s : Text) : Except ConfigError Rule :=
  match Line.twoFields? "RewriteRule" Line.fieldReadings (Text.trim s) with
  | none => .error (.missingField .rewriteRule "substitution")
  | some f => build f.first f.second f.flags

end Rule

end UrlRewrite
