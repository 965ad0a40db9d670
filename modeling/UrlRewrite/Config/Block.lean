import UrlRewrite.Config.Line

/-!
# Blocks

A block begins with a marker such as `<VirtualHost *:80>` and ends with one such as
`</VirtualHost>`. Inside it, directives are taken where they stand, comments are skipped to the end
of their line, and whatever else there is is skipped character by character.

`Reader.step` does one of these things, with the blocks that are open on a stack (`Frame`).
`Reader.Taken` has a constructor for each of them, and what is said of a step goes by cases of it.
Every step makes the text shorter (`Reader.isRest_of_step`), but for the end of a main context,
which leaves fewer open blocks. The main context is a block that begins without a marker and that
the end of the text ends.
-/

namespace UrlRewrite

/-- The marker that has opened a block. -/
inductive Opening where
  | main
  | virtualHost (ip : Text) (port : Option Text)
  | ifModule (negated : Bool) (module : Text)
deriving DecidableEq, Repr

/-- A block that is being read: its marker, the first line of it for messages, and the directives
found in it so far, latest first. -/
structure Frame where
  opening : Opening
  near : Text
  children : List Directive

namespace Opening

def kind : Opening → BlockKind
  | .main => .main
  | .virtualHost _ _ => .virtualHost
  | .ifModule _ _ => .ifModule

/-- A character that may stand in a marker, in a port or in the name of a module. -/
def isMarkerChar (c : Char) : Bool := c != '>' && !isBlank c

/-- The address in the marker of a virtual host: in square brackets, or a run up to a colon. -/
def address? (s : Text) : Option (Text × Text) :=
  ((s.bracketed? fun c => c != ']' && c != '>').map fun (ip, rest) => ('[' :: ip ++ [']'], rest)).or
    (s.takeRun? fun c => isMarkerChar c && c != ':')

/-- A port behind a colon, of at most five characters. -/
def port (s : Text) : Option Text × Text :=
  match s with
  | ':' :: body =>
    match Text.takeUpTo isMarkerChar 5 body with
    | ([], _) => (none, s)
    | (p, rest) => (some p, rest)
  | _ => (none, s)

/-- The end of a marker on the same line. -/
def markerEnd? (s : Text) : Option Text :=
  match s.dropWhile fun c => c != '>' && c != '\n' with
  | '>' :: rest => some rest
  | _ => none

/-- The bracket that closes a marker, perhaps behind a gap. -/
def close? (s : Text) : Option Text :=
  match s.dropWhile isGap with
  | '>' :: rest => some rest
  | _ => none

/-- What stands behind the keyword of a marker and a gap. -/
def afterMarker? (keyword : String) : Text → Option Text
  | '<' :: s => do Line.gap? (← Text.afterKeyword? keyword.toList s)
  | _ => none

def virtualHost? (s : Text) : Option (Opening × Text) := do
  let s ← afterMarker? "VirtualHost" s
  let (ip, s) ← address? s
  let (p, s) := port s
  some (.virtualHost (Line.unquote ip) (p.map Line.unquote), ← markerEnd? s)

/-- The name of a module and the end of the marker. -/
def module? (s : Text) : Option (Text × Text) := do
  let (name, s) ← s.takeRun? isMarkerChar
  some (Line.unquote name, ← close? s)

def ifModule? (s : Text) : Option (Opening × Text) := do
  let s ← afterMarker? "IfModule" s
  let negated : Option (Opening × Text) := match s with
    | '!' :: body => (module? body).map fun (name, rest) => (.ifModule true name, rest)
    | _ => none
  negated.or ((module? s).map fun (name, rest) => (.ifModule false name, rest))

/-- The marker of a block of a kind at the beginning of a text, and what follows it. That of the
main context is empty. -/
def ofBlock? (kind : BlockKind) (s : Text) : Option (Opening × Text) :=
  match kind with
  | .main => some (.main, s)
  | .virtualHost => virtualHost? s
  | .ifModule => ifModule? s

/-- What stands behind the marker that ends a block. -/
def afterEnd? (opening : Opening) (s : Text) : Option Text :=
  match opening, s with
  | .main, [] => some []
  | .main, _ => none
  | _, '<' :: '/' :: s => (Text.afterKeyword? opening.kind.name.toList s).bind close?
  | _, _ => none

/-- The kinds of blocks that may stand in a block. -/
def inner : Opening → List BlockKind
  | .virtualHost _ _ => [.ifModule]
  | _ => [.virtualHost, .ifModule]

/-- The address that a virtual host declares. -/
def declaredIp (ip : Text) : Wildcard Text :=
  if ip = "*".toList || ip = "_default_".toList then .any
  else
    match ip with
    | '[' :: body => .exactly (if body.getLast? = some ']' then body.dropLast else ip)
    | _ => .exactly ip

/-- The port that a virtual host declares. -/
def declaredPort (port : Option Text) : Except ConfigError (Wildcard Nat) :=
  match port with
  | none => .ok .any
  | some p =>
    if p = "*".toList then .ok .any
    else
      match Text.readNat Text.maxPort p with
      | .ok n => .ok (.exactly n)
      | .error _ => .error (.invalidField .virtualHost "port" p)

/-! ### What follows a marker -/

section Rest

variable {s rest : Text}

theorem suffix_of_address? {ip : Text} (h : address? s = some (ip, rest)) : rest <:+ s := by
  rcases Option.or_eq_some_iff.1 h with hbracketed | ⟨-, hplain⟩
  · obtain ⟨⟨inside, behind⟩, hinside, heq⟩ := Option.map_eq_some_iff.1 hbracketed
    obtain ⟨-, rfl⟩ := Prod.mk.inj heq
    exact (Text.isRest_of_bracketed? hinside).suffix
  · exact (Text.isRest_of_takeRun? hplain).suffix

theorem port_suffix (s : Text) : (port s).2 <:+ s := by
  unfold port
  split
  · rename_i body
    have htake := Text.takeUpTo_suffix isMarkerChar 5 body
    split
    · exact List.suffix_refl _
    · rename_i p behind _ heq
      rw [heq] at htake
      exact htake.trans (List.suffix_cons _ body)
  · exact List.suffix_refl _

/-- Something is taken off a text by a closing bracket. -/
theorem isRest_of_close? (h : close? s = some rest) : rest.IsRest s := by
  rw [close?] at h
  split at h
  · rename_i behind hclosed
    obtain rfl := Option.some.inj h
    exact Text.isRest_of_dropWhile hclosed
  · simp at h

theorem isRest_of_markerEnd? (h : markerEnd? s = some rest) : rest.IsRest s := by
  rw [markerEnd?] at h
  split at h
  · rename_i behind hclosed
    obtain rfl := Option.some.inj h
    exact Text.isRest_of_dropWhile hclosed
  · simp at h

theorem isRest_of_afterMarker? {keyword : String} (h : afterMarker? keyword s = some rest) :
    rest.IsRest s := by
  rw [afterMarker?.eq_def] at h
  split at h
  · obtain ⟨behind, hkeyword, hgap⟩ := Option.bind_eq_some_iff.1 h
    exact .of_cons ((Line.isRest_of_gap? hgap).suffix.trans (Text.suffix_of_afterKeyword? hkeyword))
  · simp at h

/-- Something is taken off a text by the marker of a virtual host. -/
theorem isRest_of_virtualHost? {opening : Opening} (h : virtualHost? s = some (opening, rest)) :
    rest.IsRest s := by
  simp only [virtualHost?, Option.bind_eq_bind, Option.bind_eq_some_iff] at h
  obtain ⟨s₁, hmarker, ⟨ip, s₂⟩, haddress, s₃, hend, heq⟩ := h
  obtain ⟨-, rfl⟩ := Prod.mk.inj (Option.some.inj heq)
  have hfields : s₃ <:+ s₁ :=
    (isRest_of_markerEnd? hend).suffix.trans ((port_suffix s₂).trans (suffix_of_address? haddress))
  exact .of_suffix hfields (isRest_of_afterMarker? hmarker)

theorem suffix_of_module? {name : Text} (h : module? s = some (name, rest)) : rest <:+ s := by
  obtain ⟨⟨run, behind⟩, hrun, h⟩ := Option.bind_eq_some_iff.1 h
  obtain ⟨behind', hclose, heq⟩ := Option.bind_eq_some_iff.1 h
  obtain ⟨-, rfl⟩ := Prod.mk.inj (Option.some.inj heq)
  exact (isRest_of_close? hclose).suffix.trans (Text.isRest_of_takeRun? hrun).suffix

/-- Something is taken off a text by the marker of a block for a module. -/
theorem isRest_of_ifModule? {opening : Opening} (h : ifModule? s = some (opening, rest)) :
    rest.IsRest s := by
  simp only [ifModule?, Option.bind_eq_bind, Option.bind_eq_some_iff] at h
  obtain ⟨s₁, hmarker, h⟩ := h
  refine .of_suffix ?_ (isRest_of_afterMarker? hmarker)
  rcases Option.or_eq_some_iff.1 h with hnegated | ⟨-, hplain⟩
  · split at hnegated
    · obtain ⟨⟨name, behind⟩, hmodule, heq⟩ := Option.map_eq_some_iff.1 hnegated
      obtain ⟨-, rfl⟩ := Prod.mk.inj heq
      exact (suffix_of_module? hmodule).trans (List.suffix_cons _ _)
    · simp at hnegated
  · obtain ⟨⟨name, behind⟩, hmodule, heq⟩ := Option.map_eq_some_iff.1 hplain
    obtain ⟨-, rfl⟩ := Prod.mk.inj heq
    exact suffix_of_module? hmodule

/-- Something is taken off a text by the marker of any block but the main context. -/
theorem isRest_of_ofBlock? {kind : BlockKind} (hkind : kind ≠ .main) {opening : Opening}
    (h : ofBlock? kind s = some (opening, rest)) : rest.IsRest s := by
  cases kind with
  | main => exact absurd rfl hkind
  | virtualHost => exact isRest_of_virtualHost? h
  | ifModule => exact isRest_of_ifModule? h

/-- A main context ends where the text does. -/
theorem afterEnd?_main : afterEnd? .main s = if s = [] then some [] else none := by
  cases s <;> rfl

/-- Something is taken off a text by the end of any block but the main context. -/
theorem isRest_of_afterEnd? {opening : Opening} (hopening : opening ≠ .main)
    (h : opening.afterEnd? s = some rest) : rest.IsRest s := by
  unfold afterEnd? at h
  split at h
  · exact absurd rfl hopening
  · exact absurd rfl hopening
  · obtain ⟨behind, hkeyword, hclose⟩ := Option.bind_eq_some_iff.1 h
    refine .of_cons ((isRest_of_close? hclose).suffix.trans ?_)
    exact (Text.suffix_of_afterKeyword? hkeyword).trans (List.suffix_cons _ _)
  · simp at h

end Rest

end Opening

namespace Frame

/-- The frame of a block that begins at the beginning of `s`. -/
def opened (opening : Opening) (s : Text) : Frame :=
  ⟨opening, Text.trim (s.takeWhile (· != '\n')), []⟩

/-- The frame with one more directive. -/
def add (f : Frame) (d : Directive) : Frame := { f with children := d :: f.children }

/-- The directive that a block is once it has ended; the main context is none. -/
def close (f : Frame) : Except ConfigError (Option Directive) :=
  match f.opening with
  | .main => .ok none
  | .virtualHost ip port =>
    (Opening.declaredPort port).map fun port =>
      some (.virtualHost (Opening.declaredIp ip) port f.children.reverse)
  | .ifModule negated module => .ok (some (.ifModule negated module f.children.reverse))

end Frame

namespace Reader

/-- What a step leads to: the outermost block has ended, or there is more to read in the block on
top. -/
inductive Step where
  | ended (f : Frame) (rest : Text)
  | more (top : Frame) (outer : List Frame) (rest : Text)

/-- The end of the block on top. -/
def endBlock (top : Frame) (outer : List Frame) (rest : Text) : Except ConfigError Step :=
  match outer with
  | [] => .ok (.ended top rest)
  | f :: outer => top.close.map fun d => .more (d.elim f f.add) outer rest

/-- The block of one of some kinds that begins at the beginning of a text. -/
def openAny? (kinds : List BlockKind) (s : Text) : Option (Frame × Text) :=
  kinds.findSome? fun kind =>
    (Opening.ofBlock? kind s).map fun (opening, rest) => (Frame.opened opening s, rest)

/-- One step at the beginning of a text without blanks in front. -/
def step (top : Frame) (outer : List Frame) (s : Text) : Except ConfigError Step :=
  match top.opening.afterEnd? s with
  | some rest => endBlock top outer rest
  | none =>
    match s with
    | [] => .error (.unterminated top.opening.kind top.near)
    | c :: rest =>
      if c = '#' then .ok (.more top outer (s.dropWhile (· != '\n')))
      else
        match openAny? top.opening.inner s with
        | some (f, rest) => .ok (.more f (top :: outer) rest)
        | none =>
          -- where nothing begins, one character is passed over
          (Line.readAny s Line.kinds).map fun
            | some (d, rest) => .more (top.add d) outer rest
            | none => .more top outer rest

/-- What a step can do: end the outermost block, end the block on top, skip a comment, open a block,
take a directive, or pass over a character. -/
inductive Taken (top : Frame) : List Frame → Text → Step → Prop where
  | ended {s rest : Text} (hend : top.opening.afterEnd? s = some rest) :
      Taken top [] s (.ended top rest)
  | closed {f : Frame} {outer : List Frame} {s rest : Text} {d : Option Directive}
      (hend : top.opening.afterEnd? s = some rest) (hclose : top.close = .ok d) :
      Taken top (f :: outer) s (.more (d.elim f f.add) outer rest)
  | comment {outer : List Frame} {rest : Text} :
      Taken top outer ('#' :: rest) (.more top outer (rest.dropWhile (· != '\n')))
  | opened {outer : List Frame} {s rest : Text} {f : Frame}
      (hopen : openAny? top.opening.inner s = some (f, rest)) :
      Taken top outer s (.more f (top :: outer) rest)
  | found {outer : List Frame} {s rest : Text} {d : Directive}
      (hread : Line.readAny s Line.kinds = .ok (some (d, rest))) :
      Taken top outer s (.more (top.add d) outer rest)
  | passed {outer : List Frame} {c : Char} {rest : Text}
      (hread : Line.readAny (c :: rest) Line.kinds = .ok none) :
      Taken top outer (c :: rest) (.more top outer rest)

/-- Every step that does not fail is one of those that a step can be. -/
theorem taken_of_step {top : Frame} {outer : List Frame} {s : Text} {next : Step}
    (h : step top outer s = .ok next) :
    Taken top outer s next := by
  -- the cases are those of a step, in the order in which they are tried
  unfold step at h
  split at h
  · rename_i rest hend
    cases outer with
    | nil =>
      obtain rfl := Except.ok.inj h
      exact .ended hend
    | cons f outer =>
      obtain ⟨d, hclose, rfl⟩ := map_eq_ok_iff.1 h
      exact .closed hend hclose
  · split at h
    · cases h
    · split at h
      · rename_i hc
        obtain rfl := Except.ok.inj h
        rw [hc, List.dropWhile_cons_of_pos (by decide)]
        exact .comment
      · split at h
        · rename_i hopen
          obtain rfl := Except.ok.inj h
          exact .opened hopen
        · obtain ⟨found, hread, rfl⟩ := map_eq_ok_iff.1 h
          cases found with
          | none => exact .passed hread
          | some found => exact .found hread

theorem ne_main_of_mem_inner {opening : Opening} {kind : BlockKind} (h : kind ∈ opening.inner) :
    kind ≠ .main := by
  cases opening <;>
    simp only [Opening.inner, List.mem_cons, List.not_mem_nil, or_false] at h <;> grind

theorem isRest_of_openAny? {kinds : List BlockKind} (hkinds : ∀ kind ∈ kinds, kind ≠ .main)
    {f : Frame} {s rest : Text} (h : openAny? kinds s = some (f, rest)) : rest.IsRest s := by
  obtain ⟨kind, hkind, h⟩ := List.exists_of_findSome?_eq_some h
  obtain ⟨⟨opening, behind⟩, hmarker, heq⟩ := Option.map_eq_some_iff.1 h
  obtain ⟨-, rfl⟩ := Prod.mk.inj heq
  exact Opening.isRest_of_ofBlock? (hkinds kind hkind) hmarker

/-- A step either takes something off the text and opens at most one block, or it ends a main
context in another block. -/
theorem isRest_of_step {top top' : Frame} {outer outer' : List Frame} {s rest : Text}
    (h : step top outer s = .ok (.more top' outer' rest)) :
    rest.IsRest s ∧ outer'.length ≤ outer.length + 1 ∨
      s = [] ∧ rest = [] ∧ outer'.length < outer.length := by
  cases taken_of_step h with
  | closed hend hclose =>
    by_cases hmain : top.opening = .main
    · rw [hmain, Opening.afterEnd?_main] at hend
      simp only [Option.ite_none_right_eq_some, Option.some.injEq] at hend
      exact Or.inr ⟨hend.1, hend.2.symm, Nat.lt_succ_self _⟩
    · exact Or.inl ⟨Opening.isRest_of_afterEnd? hmain hend, by simp only [List.length_cons]; omega⟩
  | comment => exact Or.inl ⟨.of_cons (List.dropWhile_suffix _), Nat.le_succ _⟩
  | opened hopen =>
    exact Or.inl ⟨isRest_of_openAny? (fun _ => ne_main_of_mem_inner) hopen, Nat.le_refl _⟩
  | found hread => exact Or.inl ⟨Line.isRest_of_readAny hread, Nat.le_succ _⟩
  | passed hread => exact Or.inl ⟨.of_cons (List.suffix_refl _), Nat.le_succ _⟩

/-- How much there is left to do: a block that is open can be ended without any text. -/
def work (outer : List Frame) (s : Text) : Nat := 2 * s.length + outer.length

/-- A step leaves less to do. -/
theorem work_lt_of_step {top top' : Frame} {outer outer' : List Frame} {s rest : Text}
    (h : step top outer (Text.trimStart s) = .ok (.more top' outer' rest)) :
    work outer' rest < work outer s := by
  have htrim := (Text.trimStart_suffix s).length_le
  simp only [work]
  rcases isRest_of_step h with ⟨hrest, houter⟩ | ⟨-, rfl, houter⟩
  · have hlt := hrest.length_lt
    omega
  · simp only [List.length_nil]
    omega

/-- Reads to the end of the outermost open block. -/
def run (top : Frame) (outer : List Frame) (s : Text) : Except ConfigError (Frame × Text) :=
  match _hstep : step top outer (Text.trimStart s) with
  | .error e => .error e
  | .ok (.ended f rest) => .ok (f, Text.trimStart rest)
  | .ok (.more top' outer' rest) => run top' outer' rest
termination_by work outer s
decreasing_by exact work_lt_of_step _hstep

/-- Reads to the end of a block. -/
def runAll (f : Frame) (s : Text) : Except ConfigError (Frame × Text) := run f [] s

/-- Takes a block of a kind off the beginning of a text. -/
def readBlock (kind : BlockKind) (s : Text) : Except ConfigError (Option (Frame × Text)) :=
  match Opening.ofBlock? kind s with
  | none => .ok none
  | some (opening, rest) => (runAll (Frame.opened opening s) rest).map some

end Reader

namespace Directive

/-- Takes a directive of a kind off the beginning of a text. -/
def consume (kind : DirectiveKind) (s : Text) : Except ConfigError (Option Directive × Text) :=
  match kind.block? with
  | some block => do
    match ← Reader.readBlock block s with
    | some (f, rest) => .ok (← f.close, rest)
    | none => .ok (none, s)
  | none => do
    match ← Line.read kind s with
    | some (d, rest) => .ok (some d, Text.trimStart rest)
    | none => .ok (none, s)

end Directive

/-- The directives of a whole configuration. -/
structure MainContext where
  children : List Directive
deriving Inhabited

namespace MainContext

/-- Reads a configuration. Without a main context it would be empty. -/
def read (s : Text) : Except ConfigError MainContext :=
  (Reader.readBlock .main s).map fun r => r.elim default fun (f, _) => ⟨f.children.reverse⟩

/-- The directives that count. -/
def active (m : MainContext) : List Directive := Directive.active m.children

def serverName? (m : MainContext) : Option Text := Directive.lastServerName? m.active

def engineOn (m : MainContext) : Bool := Directive.engineOn m.active

end MainContext

end UrlRewrite
