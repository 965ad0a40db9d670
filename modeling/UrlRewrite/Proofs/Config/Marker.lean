import UrlRewrite.Proofs.Config.Descent
import UrlRewrite.Proofs.Config.Written

/-!
# Reading markers

A marker is read whatever follows it, and what it opens becomes the block that has been written.

* `Opening.declaredIp_of_address` and `Opening.port_append`: the address and the port are those that
  the virtual host is for;
* `Opening.ofBlock?_append`: a marker is read as one of its kind, and `Opening.Makes` says what the
  block is with its children; `Opening.ofBlock?_other`: it is read as no other kind;
* `Opening.openAny?_append`: where the block may stand, its marker opens it;
* `Opening.afterEnd?_append`: the block ends where its name stands behind a slash.
-/

namespace UrlRewrite

open Layout

namespace Opening

variable {s t : Text}

/-- A spelling of a keyword behind the bracket is taken off, with the gap behind it. -/
theorem afterMarker?_append {kind : DirectiveKind} {keyword gap : Text}
    (hkeyword : Spells kind.name keyword) (hgap : IsGap gap) (hs : Text.Stops isGap s) :
    afterMarker? kind.name ('<' :: (keyword ++ (gap ++ s))) = some s := by
  simp only [afterMarker?, Line.afterName?_append hkeyword, Option.bind_eq_bind, Option.bind_some,
    Line.gap?_append hgap hs]

/-- A marker is not taken for one of another block. -/
theorem afterMarker?_other {kind other : DirectiveKind} (hother : kind ≠ other) {keyword : Text}
    (hkeyword : Spells kind.name keyword) (s : Text) :
    afterMarker? other.name ('<' :: (keyword ++ s)) = none := by
  simp only [afterMarker?, Line.afterName?_other hother hkeyword, Option.bind_eq_bind,
    Option.bind_none]

/-- Blanks and the closing bracket stop a set that has none of them. -/
theorem stops_of_isPad {p : Char → Bool} (hgap : ∀ c, isGap c = true → p c = false)
    (hend : p '>' = false) {pad : Text} (hpad : IsPad pad) (s : Text) :
    Text.Stops p (pad ++ '>' :: s) :=
  .append (fun c hc => hgap c (hpad c hc)) (.cons hend s)

theorem close?_append {pad : Text} (hpad : IsPad pad) (s : Text) :
    close? (pad ++ '>' :: s) = some s := by
  have hend : Text.Stops isGap ('>' :: s) := .cons (by decide) s
  simp only [close?, Text.dropWhile_append hpad hend]

/-- A marker ends at the first bracket of its line. -/
theorem markerEnd?_append_run {run : Text} (hrun : ∀ c ∈ run, c ≠ '>' ∧ c ≠ '\n') (s : Text) :
    markerEnd? (run ++ '>' :: s) = some s := by
  have hinside : ∀ c ∈ run, (c != '>' && c != '\n') = true := fun c hc => by simp [hrun c hc]
  have hend : Text.Stops (fun c => c != '>' && c != '\n') ('>' :: s) := .cons (by decide) s
  simp only [markerEnd?, Text.dropWhile_append hinside hend]

theorem markerEnd?_append {pad : Text} (hpad : IsPad pad) (s : Text) :
    markerEnd? (pad ++ '>' :: s) = some s := by
  refine markerEnd?_append_run (fun c hc => ?_) s
  have hgap := hpad c hc
  simp only [isGap, Bool.or_eq_true, beq_iff_eq] at hgap
  rcases hgap with rfl | rfl <;> decide

theorem not_isMarkerChar_of_isGap (c : Char) (h : isGap c = true) : isMarkerChar c = false := by
  simp [isMarkerChar, isBlank_of_isGap h]

theorem isGap_of_isMarkerChar {c : Char} (h : isMarkerChar c = true) : isGap c = false := by
  simp only [isMarkerChar, Bool.and_eq_true, Bool.not_eq_true'] at h
  exact isGap_eq_false h.2

/-! ### Addresses and ports -/

/-- An address without brackets is a run up to a colon. -/
theorem address?_append_run {run : Text} (hne : run ≠ [])
    (hrun : run.Each fun c => (isMarkerChar c && c != ':') = true) (hbracket : run.head? ≠ some '[')
    (hs : Text.Stops (fun c => isMarkerChar c && c != ':') s) :
    address? (run ++ s) = some (run, s) := by
  have hhead : (run ++ s).head? ≠ some '[' := by rwa [List.head?_append_of_ne_nil run hne]
  rw [address?, Text.bracketed?_eq_none hhead, Text.takeRun?_append hne hrun hs]
  rfl

/-- The address of a host is read as it is written. -/
theorem address?_append {ip : Wildcard Text} {address : Text} (h : Address ip address)
    (hs : Text.Stops (fun c => isMarkerChar c && c != ':') s) :
    address? (address ++ s) = some (address, s) := by
  cases h with
  | star => exact address?_append_run (by decide) (by decide) (by decide) hs
  | default => exact address?_append_run (by decide) (by decide) (by decide) hs
  | plain hne hip _ hbracket _ _ =>
    exact address?_append_run hne (fun c hc => by simp [hip c hc]) hbracket hs
  | bracketed hip =>
    rename_i ip
    have hread :
        Text.bracketed? (fun c => c != ']' && c != '>') ('[' :: ip ++ ']' :: s) = some (ip, s) :=
      Text.bracketed?_append (fun c hc => by simp [hip c hc]) (by decide) s
    have htext : '[' :: ip ++ [']'] ++ s = '[' :: ip ++ ']' :: s := by simp
    rw [address?, htext, hread]
    rfl

theorem not_wildcard {ip : Text} (hstar : ip ≠ "*".toList) (hdefault : ip ≠ "_default_".toList) :
    ¬ (decide (ip = "*".toList) || decide (ip = "_default_".toList)) = true := by
  rw [decide_eq_false hstar, decide_eq_false hdefault]
  decide

/-- What is declared by an address is the address that it is written for. -/
theorem declaredIp_of_address {ip : Wildcard Text} {address : Text} (h : Address ip address) :
    declaredIp (Line.unquote address) = ip := by
  cases h with
  | star => decide
  | default => decide
  | plain _ _ hquote hbracket hstar hdefault =>
    rw [Line.unquote_of_head? hquote, declaredIp.eq_def, if_neg (not_wildcard hstar hdefault)]
    split
    · exact absurd rfl hbracket
    · rfl
  | bracketed hip =>
    rename_i ip
    have hhead {word : Text} (hword : word.head? ≠ some '[') : '[' :: ip ++ [']'] ≠ word := by
      rintro rfl
      exact hword rfl
    rw [Line.unquote_of_head? (by simp), declaredIp.eq_def,
      if_neg (not_wildcard (hhead (by decide)) (hhead (by decide)))]
    simp

/-- Of a port, five characters are read. -/
theorem port_colon_append_run {run : Text} (hne : run ≠ [])
    (hrun : ∀ c ∈ run, isMarkerChar c = true) (hs : Text.Stops isMarkerChar s) :
    Opening.port (':' :: (run ++ s)) = (some (run.take 5), run.drop 5 ++ s) := by
  have hread := Text.takeUpTo_append_take 5 hrun hs
  cases run with
  | nil => exact absurd rfl hne
  | cons c run => simp only [Opening.port, hread, List.take_succ_cons]

/-- Up to five characters of a port are read behind the colon. -/
theorem port_colon_append {digits : Text} (hne : digits ≠ []) (hlength : digits.length ≤ 5)
    (hdigits : ∀ c ∈ digits, isMarkerChar c = true) (hs : Text.Stops isMarkerChar s) :
    Opening.port (':' :: digits ++ s) = (some digits, s) := by
  rw [List.cons_append, port_colon_append_run hne hdigits hs, List.take_of_length_le hlength,
    List.drop_of_length_le hlength, List.nil_append]

theorem isMarkerChar_of_isDigit {c : Char} (h : c.isDigit = true) : isMarkerChar c = true := by
  have hend : c ≠ '>' := by
    rintro rfl
    exact absurd h (by decide)
  simp [isMarkerChar, Text.isBlank_of_isDigit h, hend]

/-- A port is read as it is written. -/
theorem port_append {port : Wildcard Nat} {portText : Text} (h : Port port portText)
    (hs : Text.Stops isMarkerChar s) :
    ∃ read, Opening.port (portText ++ s) = (read, s) ∧
      declaredPort (read.map Line.unquote) = .ok port := by
  cases h with
  | absent =>
    refine ⟨none, ?_, rfl⟩
    rw [List.nil_append, Opening.port.eq_def]
    split
    · exact absurd (hs ':' rfl) (by decide)
    · rfl
  | star =>
    have hstar : Text.Each (isMarkerChar · = true) ['*'] := by decide
    exact ⟨some ['*'], port_colon_append (by decide) (by decide) hstar hs, rfl⟩
  | number hne hdigits hlength hmax =>
    rename_i digits
    refine ⟨some digits,
      port_colon_append hne hlength (fun c hc => isMarkerChar_of_isDigit (hdigits c hc)) hs, ?_⟩
    have hquote : digits.head? ≠ some '"' :=
      fun h => absurd (hdigits '"' (List.mem_of_mem_head? h)) (by decide)
    -- digits are neither quoted nor the wildcard, so that they are read as a number
    have hstar : digits ≠ "*".toList := by
      rintro rfl
      exact absurd (hdigits '*' (by decide)) (by decide)
    simp only [Option.map_some, Line.unquote_of_head? hquote, declaredPort, if_neg hstar,
      Text.readNat_of_isDigit hne hdigits hmax]

/-! ### Blocks -/

/-- The name of a module is read up to the closing bracket. -/
theorem module?_append {module pad : Text} (hne : module ≠ [])
    (hmodule : module.Each (isMarkerChar · = true)) (hquote : module.head? ≠ some '"')
    (hpad : IsPad pad) (s : Text) :
    module? (module ++ (pad ++ '>' :: s)) = some (module, s) := by
  have hstop := stops_of_isPad not_isMarkerChar_of_isGap (by decide) hpad s
  simp only [module?, Text.takeRun?_append hne hmodule hstop, close?_append hpad,
    Line.unquote_of_head? hquote, Option.bind_eq_bind, Option.bind_some]

/-- What the block is that a marker opens, whatever the children are. -/
def Makes (opening : Opening) (make : List Directive → Directive) : Prop :=
  ∀ near children, Frame.close ⟨opening, near, children⟩ = .ok (some (make children.reverse))

/-- The address ends where the port begins, or the marker ends. -/
theorem stops_of_port {port : Wildcard Nat} {portText pad : Text} (h : Port port portText)
    (hpad : IsPad pad) (s : Text) :
    Text.Stops (fun c => isMarkerChar c && c != ':') (portText ++ (pad ++ '>' :: s)) := by
  cases h with
  | absent =>
    exact stops_of_isPad (fun c hc => by simp [not_isMarkerChar_of_isGap c hc]) (by decide) hpad s
  | star => exact .cons (by decide) _
  | number _ _ _ _ => exact .cons (by decide) _

theorem stops_of_address {ip : Wildcard Text} {address : Text} (h : Address ip address) (s : Text) :
    Text.Stops isGap (address ++ s) := by
  cases h with
  | star => exact .cons (by decide) _
  | default => exact .cons (by decide) _
  | plain hne hip _ _ _ _ =>
    exact .append_of_ne_nil hne (fun c hc => isGap_of_isMarkerChar (hip c hc).1) s
  | bracketed _ => exact .cons (by decide) _

/-- The marker of a virtual host is read from its layout. -/
theorem virtualHost?_append {keyword gap address portText pad : Text} {ip : Wildcard Text}
    {port : Wildcard Nat} (hkeyword : Spells DirectiveKind.virtualHost.name keyword)
    (hgap : IsGap gap) (haddress : Address ip address) (hport : Port port portText)
    (hpad : IsPad pad) (s : Text) :
    ∃ opening,
      virtualHost? ('<' :: (keyword ++ (gap ++ (address ++ (portText ++ (pad ++ '>' :: s)))))) =
        some (opening, s) ∧ opening.kind = .virtualHost ∧ Makes opening (.virtualHost ip port) := by
  have hmarker :=
    afterMarker?_append hkeyword hgap (stops_of_address haddress (portText ++ (pad ++ '>' :: s)))
  obtain ⟨read, hread, hdeclared⟩ :=
    port_append hport (stops_of_isPad not_isMarkerChar_of_isGap (by decide) hpad s)
  refine ⟨.virtualHost (Line.unquote address) (read.map Line.unquote), ?_, rfl, ?_⟩
  · rw [DirectiveKind.name] at hmarker
    simp only [virtualHost?, hmarker, Option.bind_eq_bind, Option.bind_some,
      address?_append haddress (stops_of_port hport hpad s), hread, markerEnd?_append hpad]
  · intro near children
    simp only [Frame.close, hdeclared, declaredIp_of_address haddress, Except.map]

/-- The marker of a block for a module is read from its layout. -/
theorem ifModule?_append {keyword gap module pad : Text} {negated : Bool}
    (hkeyword : Spells DirectiveKind.ifModule.name keyword) (hgap : IsGap gap) (hne : module ≠ [])
    (hmodule : module.Each (isMarkerChar · = true)) (hquote : module.head? ≠ some '"')
    (hnegation : negated = false → module.head? ≠ some '!') (hpad : IsPad pad) (s : Text) :
    ifModule?
      ('<' ::
        (keyword ++ (gap ++ ((if negated then ['!'] else []) ++ (module ++ (pad ++ '>' :: s)))))) =
      some (.ifModule negated module, s) := by
  have hread := module?_append hne hmodule hquote hpad s
  cases negated with
  | true =>
    have hstop : Text.Stops isGap ('!' :: (module ++ (pad ++ '>' :: s))) := .cons (by decide) _
    have hmarker := afterMarker?_append hkeyword hgap hstop
    rw [DirectiveKind.name] at hmarker
    simp only [if_true, List.singleton_append, ifModule?, hmarker, Option.bind_eq_bind,
      Option.bind_some, hread, Option.map_some, Option.some_or]
  | false =>
    cases module with
    | nil => exact absurd rfl hne
    | cons c module =>
      have hc := hmodule c List.mem_cons_self
      -- the mark of negation is tried first, and the name of the module must not be taken for it
      have hmark : c ≠ '!' := by
        rintro rfl
        exact hnegation rfl rfl
      have hstop : Text.Stops isGap (c :: module ++ (pad ++ '>' :: s)) :=
        .cons (isGap_of_isMarkerChar hc) _
      have hmarker := afterMarker?_append hkeyword hgap hstop
      rw [DirectiveKind.name] at hmarker
      simp only [Bool.false_eq_true, if_false, List.nil_append, ifModule?, hmarker,
        Option.bind_eq_bind, Option.bind_some, hread, Option.map_some]
      split
      · rename_i body heq
        exact absurd (List.cons.inj heq).1 hmark
      · rfl

/-- A marker is read as it has been written. -/
theorem ofBlock?_append {kind : BlockKind} {make : List Directive → Directive} {marker : Text}
    (h : Marker kind make marker) (s : Text) :
    ∃ opening, ofBlock? kind (marker ++ s) = some (opening, s) ∧ opening.kind = kind ∧
      Makes opening make := by
  cases h with
  | virtualHost hkeyword hgap haddress hport hpad =>
    obtain ⟨opening, hread, hopening⟩ := virtualHost?_append hkeyword hgap haddress hport hpad s
    exact ⟨opening, by simpa [ofBlock?] using hread, hopening⟩
  | @ifModule _ _ _ _ negated hkeyword hgap hne hmodule hquote hnegation hpad =>
    have hread :=
      @ifModule?_append _ _ _ _ negated hkeyword hgap hne hmodule hquote hnegation hpad s
    exact ⟨_, by simpa [ofBlock?] using hread, rfl, fun near children => rfl⟩

/-- A marker is not read as one of another block. -/
theorem ofBlock?_other {kind other : BlockKind} (hother : other ≠ kind) (hmain : other ≠ .main)
    {make : List Directive → Directive} {marker : Text} (h : Marker kind make marker) (s : Text) :
    ofBlock? other (marker ++ s) = none := by
  cases h with
  | virtualHost hkeyword _ _ _ _ =>
    cases other with
    | main => exact absurd rfl hmain
    | virtualHost => exact absurd rfl hother
    | ifModule =>
      have hnone := fun u => @afterMarker?_other .virtualHost .ifModule (by decide) _ hkeyword u
      simp only [DirectiveKind.name] at hnone
      simp [ofBlock?, ifModule?, hnone]
  | ifModule hkeyword _ _ _ _ _ _ =>
    cases other with
    | main => exact absurd rfl hmain
    | virtualHost =>
      have hnone := fun u => @afterMarker?_other .ifModule .virtualHost (by decide) _ hkeyword u
      simp only [DirectiveKind.name] at hnone
      simp [ofBlock?, virtualHost?, hnone]
    | ifModule => exact absurd rfl hother

theorem ne_main_of_marker {kind : BlockKind} {make : List Directive → Directive} {marker : Text}
    (h : Marker kind make marker) : kind ≠ .main := by
  cases h <;> decide

/-- A block that one kind opens and no other kind does is opened by trying the kinds in turn. -/
theorem openAny?_of_ofBlock? {kind : BlockKind} {kinds : List BlockKind} (hkind : kind ∈ kinds)
    {opening : Opening} (hread : ofBlock? kind s = some (opening, t))
    (hothers : ∀ other ∈ kinds, other ≠ kind → ofBlock? other s = none) :
    Reader.openAny? kinds s = some (Frame.opened opening s, t) := by
  induction kinds with
  | nil => simp at hkind
  | cons other kinds ih =>
    rw [Reader.openAny?, List.findSome?_cons]
    by_cases h : other = kind
    · rw [h, hread, Option.map_some]
    · rw [hothers other List.mem_cons_self h, Option.map_none]
      exact ih ((List.mem_cons.1 hkind).resolve_left (Ne.symm h))
        fun other hmem => hothers other (List.mem_cons_of_mem _ hmem)

/-- Where the block may stand, its marker opens it. -/
theorem openAny?_append {opening : Opening} {kind : BlockKind} {make : List Directive → Directive}
    {marker : Text} (hplace : opening.kind = .virtualHost → kind ≠ .virtualHost)
    (h : Marker kind make marker) (s : Text) :
    ∃ f, Reader.openAny? opening.inner (marker ++ s) = some (f, s) ∧ f.opening.kind = kind ∧
      f.children = [] ∧
      Makes f.opening make := by
  obtain ⟨opened, hread, hkind, hmakes⟩ := ofBlock?_append h s
  have hmem : kind ∈ opening.inner := by
    have hmain := ne_main_of_marker h
    cases opening <;> cases kind <;> simp_all [inner, Opening.kind]
  refine ⟨Frame.opened opened (marker ++ s), ?_, hkind, rfl, hmakes⟩
  exact openAny?_of_ofBlock? hmem hread fun other hinner hother =>
    ofBlock?_other hother (Reader.ne_main_of_mem_inner hinner) h s

theorem exists_of_marker {kind : BlockKind} {make : List Directive → Directive} {marker : Text}
    (h : Marker kind make marker) : ∃ c u, marker = '<' :: c :: u ∧ c ≠ '/' := by
  cases h with
  | virtualHost hkeyword _ _ _ _ =>
    obtain ⟨c, u, rfl, -, -, hslash, -⟩ := @Line.exists_cons_of_spells .virtualHost _ hkeyword
    exact ⟨c, _, rfl, hslash⟩
  | ifModule hkeyword _ _ _ _ _ _ =>
    obtain ⟨c, u, rfl, -, -, hslash, -⟩ := @Line.exists_cons_of_spells .ifModule _ hkeyword
    exact ⟨c, _, rfl, hslash⟩

/-- A block ends where its name stands behind a slash. -/
theorem afterEnd?_append {opening : Opening} (hopening : opening.kind ≠ .main) {keyword gap : Text}
    (hkeyword : Spells opening.kind.name keyword) (hgap : IsPad gap) (s : Text) :
    opening.afterEnd? ('<' :: '/' :: (keyword ++ (gap ++ '>' :: s))) = some s := by
  cases opening with
  | main => exact absurd rfl hopening
  | virtualHost ip port =>
    have hname := @Line.afterName?_append .virtualHost _ hkeyword (gap ++ '>' :: s)
    exact (Option.bind_eq_some_iff.2 ⟨_, hname, close?_append hgap s⟩)
  | ifModule negated module =>
    have hname := @Line.afterName?_append .ifModule _ hkeyword (gap ++ '>' :: s)
    exact (Option.bind_eq_some_iff.2 ⟨_, hname, close?_append hgap s⟩)

end Opening

end UrlRewrite
