import UrlRewrite.Result
import UrlRewrite.Proofs.Template.Written

/-!
# Reading a template without counting

`Piece.readAll` is given a number of steps. As many as there are characters are enough
(`Piece.readAll_eq`), so that the pieces of a text are a function of the text alone,
`Piece.readText`, with one equation for a text that is not empty (`Piece.readText_cons`): the first
token is taken off and read as a piece, and the rest is read.

The key and the default of an entry are read on their own (`Token.piece`). They stand in the text
behind its first character, and so does what is left of it: `Token.takenOff_first` says what taking
off a token does, also which error a token is at fault for (`Token.fault?`) and where this is found
in the text.
-/

namespace UrlRewrite

/-- A decimal digit other than those from `0` to `9`. -/
def IsForeignDigit (d : Char) : Prop := isDigit d = true ∧ d.isDigit = false

instance (d : Char) : Decidable (IsForeignDigit d) :=
  inferInstanceAs (Decidable (isDigit d = true ∧ d.isDigit = false))

/-- The text begins like a reference to a group, with a foreign digit in place of the index. -/
def BeginsForeign (s : Text) : Prop :=
  ∃ sign ∈ ['$', '%'], ∃ d rest, IsForeignDigit d ∧ s = sign :: d :: rest

/-- What the error quotes is written in the text, with the opening of the reference in front of
it. -/
def TemplateError.IsWrittenIn : TemplateError → Text → Prop
  | unknownVariable name, s => '%' :: '\x7b' :: (name ++ ['\x7d']) <:+: s
  | invalidEntry written, s => '$' :: '\x7b' :: written <:+: s

namespace Token

/-! ### What a token has for templates and what is wrong with it -/

/-- The parts of a token that are templates. -/
def parts : Token → List Text
  | entry _ key default => key :: default.toList
  | _ => []

/-- The error that a token is at fault for by itself. -/
def fault? : Token → Option TemplateError
  | foreignDigit => some (.unknownVariable [])
  | brokenEntry written => some (.invalidEntry written)
  | server name => if ServerVariable.read? name = none then some (.unknownVariable name) else none
  | _ => none

/-- The piece that a token is, given a reader of its parts. -/
def piece (readPart : Text → Except TemplateError (List Piece)) : Token → Except TemplateError Piece
  | literal c => .ok (.literal c)
  | group kind index => .ok (.group kind index)
  | foreignDigit => .error (.unknownVariable [])
  | entry table key none => readPart key >>= fun key => .ok (.entry table key none)
  | entry table key (some d) =>
    readPart key >>= fun key => readPart d >>= fun d => .ok (.entry table key (some d))
  | brokenEntry written => .error (.invalidEntry written)
  | server name =>
    (ServerVariable.read? name).elim (.error (.unknownVariable name)) fun v => .ok (.server v)
  | env name => .ok (.env name)

variable {f g : Text → Except TemplateError (List Piece)} {token : Token} {e : TemplateError}

/-- Nothing but the parts of a token is read. -/
theorem piece_congr (h : ∀ part ∈ token.parts, f part = g part) :
    token.piece f = token.piece g := by
  cases token with
  | entry table key default =>
    have hkey : f key = g key := h key List.mem_cons_self
    cases default with
    | none => rw [piece, piece, hkey]
    | some d =>
      have hd : f d = g d := h d (List.mem_cons_of_mem _ List.mem_cons_self)
      rw [piece, piece, hkey, hd]
  | _ => rfl

/-- A token with a fault is no piece. -/
theorem piece_of_fault (h : token.fault? = some e) : token.piece f = .error e := by
  cases token with
  | foreignDigit => exact congrArg Except.error (Option.some.inj h)
  | brokenEntry written => exact congrArg Except.error (Option.some.inj h)
  | server name =>
    cases hname : ServerVariable.read? name with
    | none =>
      rw [fault?, if_pos hname] at h
      rw [piece, hname]
      exact congrArg Except.error (Option.some.inj h)
    | some v => simp [fault?, hname] at h
  | _ => cases h

/-- A token fails by its own fault, or else by that of its key or of its default. -/
theorem error_of_piece (h : token.piece f = .error e) :
    token.fault? = some e ∨ ∃ table key default, token = .entry table key default ∧
      (f key = .error e ∨ ∃ d ps, default = some d ∧ f key = .ok ps ∧ f d = .error e) := by
  cases token with
  | foreignDigit => exact .inl (congrArg some (Except.error.inj h))
  | brokenEntry written => exact .inl (congrArg some (Except.error.inj h))
  | server name =>
    cases hname : ServerVariable.read? name with
    | none =>
      rw [piece, hname] at h
      rw [fault?, if_pos hname]
      exact .inl (congrArg some (Except.error.inj h))
    | some v =>
      rw [piece, hname] at h
      cases h
  | entry table key default =>
    -- of an entry the key is read first, and the default only if that has been read
    refine .inr ⟨table, key, default, rfl, ?_⟩
    cases default with
    | none =>
      rcases bind_eq_error_iff.1 h with hkey | ⟨_, -, hdone⟩
      · exact .inl hkey
      · cases hdone
    | some d =>
      rcases bind_eq_error_iff.1 h with hkey | ⟨ps, hkey, hdefault⟩
      · exact .inl hkey
      · rcases bind_eq_error_iff.1 hdefault with hd | ⟨_, -, hdone⟩
        · exact .inr ⟨d, ps, rfl, hkey, hd⟩
        · cases hdone
  | _ => cases h

/-- A token is no piece because of itself, or because of its key, or because of its default behind a
key that can be read. -/
theorem piece_eq_error_iff :
    token.piece f = .error e ↔ token.fault? = some e ∨ ∃ table key default,
      token = .entry table key default ∧
      (f key = .error e ∨ ∃ d ps, default = some d ∧ f key = .ok ps ∧ f d = .error e) := by
  refine ⟨error_of_piece, ?_⟩
  rintro (hfault | ⟨table, key, default, rfl, hkey | ⟨d, ps, rfl, hkey, hd⟩⟩)
  · exact piece_of_fault hfault
  · cases default <;> exact bind_eq_error_iff.2 (.inl hkey)
  · exact bind_eq_error_iff.2 (.inr ⟨ps, hkey, bind_eq_error_iff.2 (.inl hd)⟩)

/-! ### Taking off a token -/

/-- What is taken off a text with the first character `c`: a token and what is left. -/
structure TakenOff (taken : Token × Text) (c : Char) (s : Text) : Prop where
  /-- The parts of the token stand behind the first character. -/
  parts : ∀ part ∈ taken.1.parts, part <:+: s
  /-- So does what is left. -/
  rest : taken.2 <:+ s
  /-- The error that the token is at fault for is written in the text, or the text begins with a
  foreign digit. -/
  fault :
    ∀ e ∈ taken.1.fault?, e.IsWrittenIn (c :: s) ∨ e = .unknownVariable [] ∧ BeginsForeign (c :: s)

variable {c : Char} {s : Text}

/-- A token without parts is taken off if its fault is written in the text. -/
theorem TakenOff.of_fault {rest : Text} (hparts : token.parts = []) (hrest : rest <:+ s)
    (hfault : ∀ e ∈ token.fault?, e.IsWrittenIn (c :: s) ∨ e = .unknownVariable [] ∧
      BeginsForeign (c :: s)) :
    TakenOff (token, rest) c s := by
  refine ⟨?_, hrest, hfault⟩
  intro part hpart
  rw [hparts] at hpart
  cases hpart

/-- A token with neither a part nor a fault. -/
theorem TakenOff.of_plain {rest : Text} (hparts : token.parts = []) (hrest : rest <:+ s)
    (hfault : token.fault? = none) : TakenOff (token, rest) c s := by
  refine .of_fault hparts hrest ?_
  intro e he
  rw [hfault] at he
  cases he

/-- A part of an entry is copied up to a character that ends it. -/
theorem Scans.exists_end {β : Type} {ends : List Char} {cut : Bool → Text → Option (Text × β)}
    (h : Scans ends cut) (hnil : ∀ inUnit, cut inUnit [] = none)
    (hend : ∀ c ∈ ends, ∀ s a x, cut false (c :: s) = some (a, x) → a = []) {inUnit : Bool}
    {s a : Text} {x : β} (hcut : cut inUnit s = some (a, x)) :
    ∃ c rest, c ∈ ends ∧ s = a ++ c :: rest ∧ cut false (c :: rest) = some ([], x) := by
  induction s generalizing inUnit a with
  | nil =>
    rw [hnil] at hcut
    cases hcut
  | cons c s ih =>
    -- a character that is copied leaves the end to what follows it, which is the induction
    -- hypothesis
    have hcopied : ∀ {b : Bool}, (cut b s).map (Prod.map (c :: ·) id) = some (a, x) →
        ∃ c' rest,
          c' ∈ ends ∧ c :: s = a ++ c' :: rest ∧ cut false (c' :: rest) = some ([], x) := by
      intro b hmap
      obtain ⟨⟨a', x'⟩, hs, heq⟩ := Option.map_eq_some_iff.1 hmap
      obtain ⟨rfl, rfl⟩ := Prod.mk.inj heq
      obtain ⟨c', rest, hmem, rfl, hstop⟩ := ih hs
      exact ⟨c', rest, hmem, rfl, hstop⟩
    cases inUnit with
    | true =>
      rw [h.inUnit] at hcut
      exact hcopied hcut
    | false =>
      by_cases hc : c ∈ ends
      · obtain rfl := hend c hc s a x hcut
        exact ⟨c, s, hc, rfl, hcut⟩
      · rw [h.outside c s hc] at hcut
        exact hcopied hcut

/-- A default ends with the closing brace of its entry. -/
theorem eq_append_of_cutDefault {s d rest : Text} (h : cutDefault false s = some (d, rest)) :
    s = d ++ '\x7d' :: rest := by
  have hbrace : ∀ t, cutDefault false ('\x7d' :: t) = some ([], t) := fun t => rfl
  have hend : ∀ c ∈ ['\x7d'], ∀ s a x, cutDefault false (c :: s) = some (a, x) → a = [] := by
    intro c hc s a x hcut
    rw [List.mem_singleton.1 hc, hbrace] at hcut
    exact (Prod.mk.inj (Option.some.inj hcut)).1.symm
  obtain ⟨c, t, hc, rfl, hcut⟩ := scans_cutDefault.exists_end (fun _ => rfl) hend h
  rw [List.mem_singleton.1 hc, hbrace] at hcut
  rw [List.mem_singleton.1 hc, (Prod.mk.inj (Option.some.inj hcut)).2]

/-- A key ends with the bar in front of the default, and without a default with the closing brace of
its entry. -/
theorem eq_append_of_cutKey {s key rest : Text} {default : Option Text}
    (h : cutKey false s = some (key, default, rest)) :
    s = key ++ (default.elim [] ('|' :: ·) ++ '\x7d' :: rest) := by
  have hbrace : ∀ t, cutKey false ('\x7d' :: t) = some ([], none, t) := fun t => rfl
  have hbar : ∀ t, cutKey false ('|' :: t) = (cutDefault false t).map fun p =>
    ([], some p.1, p.2) := fun t => rfl
  have hend : ∀ c ∈ ['|', '\x7d'], ∀ s a x, cutKey false (c :: s) = some (a, x) → a = [] := by
    intro c hc s a x hcut
    rcases List.mem_cons.1 hc with rfl | hc
    · rw [hbar] at hcut
      obtain ⟨p, -, heq⟩ := Option.map_eq_some_iff.1 hcut
      exact (Prod.mk.inj heq).1.symm
    · rw [List.mem_singleton.1 hc, hbrace] at hcut
      exact (Prod.mk.inj (Option.some.inj hcut)).1.symm
  obtain ⟨c, t, hc, rfl, hcut⟩ := scans_cutKey.exists_end (fun _ => rfl) hend h
  rcases List.mem_cons.1 hc with rfl | hc
  · -- the default has been cut off behind the bar
    rw [hbar] at hcut
    obtain ⟨⟨d, r⟩, hdefault, heq⟩ := Option.map_eq_some_iff.1 hcut
    simp only [Prod.mk.injEq, true_and] at heq
    obtain ⟨rfl, rfl⟩ := heq
    rw [eq_append_of_cutDefault hdefault, Option.elim_some, List.cons_append]
  · rw [List.mem_singleton.1 hc, hbrace] at hcut
    simp only [Option.some.injEq, Prod.mk.injEq, true_and] at hcut
    obtain ⟨rfl, rfl⟩ := hcut
    rw [List.mem_singleton.1 hc, Option.elim_none, List.nil_append]

/-- What follows `${` is an entry, or else it is quoted up to its first closing brace. -/
theorem entryFirst_cases (s : Text) :
    entryFirst s = (.brokenEntry (s.takeWhile (· != '\x7d')), []) ∨
      ∃ table body key default rest,
        s = table ++ ':' :: body ∧ cutKey false body = some (key, default, rest) ∧
        entryFirst s = (.entry table key default, rest) := by
  simp only [entryFirst]
  split
  · rename_i c name body htable hbody
    split
    · rename_i key default rest hcut
      refine .inr ⟨c :: name, body, key, default, rest, ?_, hcut, by rw [htable]⟩
      rw [← htable, ← hbody, List.takeWhile_append_dropWhile]
    · exact .inl rfl
  · exact .inl rfl

/-- The token of an entry is taken off behind its brace. -/
theorem takenOff_entryFirst (s : Text) : TakenOff (entryFirst s) '$' ('\x7b' :: s) := by
  rcases entryFirst_cases s with hbroken | ⟨table, body, key, default, rest, rfl, hcut, hentry⟩
  · rw [hbroken]
    refine .of_fault rfl List.nil_suffix ?_
    intro e he
    obtain rfl : _ = e := Option.some.inj he
    have hquoted : s.takeWhile (· != '\x7d') <+: s := List.takeWhile_prefix _
    have hopened : '$' :: '\x7b' :: s.takeWhile (· != '\x7d') <+: '$' :: '\x7b' :: s := by
      rw [List.prefix_cons_inj, List.prefix_cons_inj]
      exact hquoted
    exact .inl hopened.isInfix
  · rw [hentry]
    have hbody := eq_append_of_cutKey hcut
    have hinside : body <:+: '\x7b' :: (table ++ ':' :: body) :=
      ⟨'\x7b' :: (table ++ [':']), [], by simp⟩
    -- behind the colon there are the key, the default if there is one, the closing brace and what
    -- is left
    refine ⟨?_, ?_, fun e he => nomatch he⟩
    · have hkey : key <:+: body := ⟨[], _, by rw [hbody, List.nil_append]⟩
      have hdefault : ∀ d ∈ default, d <:+: body := by
        rintro d rfl
        exact ⟨key ++ ['|'], '\x7d' :: rest, by rw [hbody]; simp⟩
      intro part hpart
      rcases List.mem_cons.1 hpart with rfl | hpart
      · exact hkey.trans hinside
      · exact (hdefault part (Option.mem_toList.1 hpart)).trans hinside
    · refine ⟨'\x7b' :: (table ++ ':' :: (key ++ (default.elim [] ('|' :: ·) ++ ['\x7d']))), ?_⟩
      rw [hbody]
      simp

theorem takenOff_variableFirst (s : Text) : TakenOff (variableFirst s) '%' ('\x7b' :: s) := by
  unfold variableFirst
  split
  · exact .of_plain rfl (List.suffix_refl _) rfl
  · rename_i name rest hsplit
    obtain ⟨rfl, -⟩ := Text.eq_append_of_splitFirst hsplit
    have hrest : rest <:+ '\x7b' :: (name ++ '\x7d' :: rest) :=
      ⟨'\x7b' :: (name ++ ['\x7d']), by simp⟩
    split
    · exact .of_plain rfl hrest rfl
    · refine .of_fault rfl hrest ?_
      intro e he
      obtain ⟨-, rfl⟩ :
          ServerVariable.read? name = none ∧ TemplateError.unknownVariable name = e := by
        simpa [fault?] using he
      exact .inl ⟨[], rest, by simp⟩

/-- The token of a group is taken off behind its digit. -/
theorem takenOff_groupFirst {sign d : Char} (hsign : sign ∈ ['$', '%']) (hd : isDigit d = true)
    (kind : GroupKind) (s : Text) : TakenOff (groupFirst kind d, s) sign (d :: s) := by
  have hbehind : s <:+ d :: s := List.suffix_cons d s
  unfold groupFirst
  by_cases hindex : d.isDigit = true
  · rw [if_pos hindex]
    exact .of_plain rfl hbehind rfl
  · rw [if_neg hindex]
    refine .of_fault rfl hbehind ?_
    intro e he
    obtain rfl : _ = e := Option.some.inj he
    exact .inr ⟨rfl, sign, hsign, d, s, ⟨hd, Bool.eq_false_iff.2 hindex⟩, rfl⟩

/-- What taking the first token off a text does. -/
theorem takenOff_first (c : Char) (s : Text) : TakenOff (first c s) c s := by
  cases s with
  | nil => exact .of_plain rfl List.nil_suffix rfl
  | cons d s =>
    have hsingle : TakenOff (literal c, d :: s) c (d :: s) := .of_plain rfl (List.suffix_refl _) rfl
    by_cases hslash : c = '\\'
    · simp only [first, if_pos hslash]
      exact .of_plain rfl (List.suffix_cons d s) rfl
    -- a sign refers to something if a digit or a brace follows, and stands for itself otherwise
    by_cases hdollar : c = '$'
    · subst hdollar
      by_cases hdigit : isDigit d = true
      · simp only [first, if_neg hslash, if_true, if_pos hdigit]
        exact takenOff_groupFirst (by decide) hdigit .rule s
      by_cases hbrace : d = '\x7b'
      · subst hbrace
        simp only [first, if_neg hslash, if_true, if_neg hdigit]
        exact takenOff_entryFirst s
      · simpa only [first, if_neg hslash, if_true, if_neg hdigit, if_neg hbrace] using hsingle
    by_cases hpercent : c = '%'
    · subst hpercent
      by_cases hdigit : isDigit d = true
      · simp only [first, if_neg hslash, if_neg hdollar, if_true, if_pos hdigit]
        exact takenOff_groupFirst (by decide) hdigit .condition s
      by_cases hbrace : d = '\x7b'
      · subst hbrace
        simp only [first, if_neg hslash, if_neg hdollar, if_true, if_neg hdigit]
        exact takenOff_variableFirst s
      · simpa only [first, if_neg hslash, if_neg hdollar, if_true, if_neg hdigit,
          if_neg hbrace] using hsingle
    · simpa only [first, if_neg hslash, if_neg hdollar, if_neg hpercent] using hsingle

/-- A foreign digit in place of an index is at fault. -/
theorem fault_of_beginsForeign (h : BeginsForeign (c :: s)) :
    (first c s).1.fault? = some (.unknownVariable []) := by
  obtain ⟨sign, hsign, d, rest, hd, heq⟩ := h
  obtain ⟨rfl, rfl⟩ := List.cons.inj heq
  have hgroup : ∀ kind, groupFirst kind d = .foreignDigit := by
    intro kind
    rw [groupFirst, hd.2, if_neg Bool.false_ne_true]
  simp only [List.mem_cons, List.not_mem_nil, or_false] at hsign
  rcases hsign with rfl | rfl <;> simp [first, hd.1, hgroup, fault?]

end Token

namespace Piece

/-! ### The pieces of a text -/

/-- A step reads the first token, its parts in the steps that remain, and then the rest. -/
theorem readAll_cons (n : Nat) (c : Char) (s : Text) :
    readAll (n + 1) (c :: s) =
      (Token.first c s).1.piece (readAll n) >>= fun p =>
        (readAll n (Token.first c s).2).map (p :: ·) := by
  rw [readAll]
  generalize Token.first c s = taken
  obtain ⟨token, rest⟩ := taken
  simp only [bind_cons]
  -- the step goes on in every branch of the match on its token, so the branches are compared one
  -- by one
  cases token with
  | server name =>
    simp only [Token.piece]
    cases ServerVariable.read? name <;> rfl
  | entry table key default =>
    cases default with
    | none =>
      simp only [Token.piece]
      cases readAll n key <;> rfl
    | some d =>
      simp only [Token.piece]
      cases readAll n key with
      | error e => rfl
      | ok ps => cases readAll n d <;> rfl
  | _ => rfl

/-- More steps than there are characters change nothing. -/
theorem readAll_eq {n m : Nat} {s : Text} (hn : s.length ≤ n) (hm : s.length ≤ m) :
    readAll n s = readAll m s := by
  -- on the number of steps: parts and rest are shorter than the text
  induction n generalizing m s with
  | zero =>
    obtain rfl : s = [] := List.length_eq_zero_iff.1 (Nat.le_zero.1 hn)
    cases m <;> rfl
  | succ n ih =>
    cases s with
    | nil => cases m <;> rfl
    | cons c s =>
      obtain ⟨m, rfl⟩ : ∃ k, m = k + 1 := Nat.exists_eq_add_one_of_ne_zero (by simp at hm; omega)
      rw [List.length_cons, Nat.add_le_add_iff_right] at hn hm
      have htaken := Token.takenOff_first c s
      have hpiece :
          (Token.first c s).1.piece (readAll n) = (Token.first c s).1.piece (readAll m) := by
        refine Token.piece_congr fun part hpart => ?_
        have hlength := (htaken.parts part hpart).length_le
        exact ih (Nat.le_trans hlength hn) (Nat.le_trans hlength hm)
      have hrest : readAll n (Token.first c s).2 = readAll m (Token.first c s).2 :=
        ih (Nat.le_trans htaken.rest.length_le hn) (Nat.le_trans htaken.rest.length_le hm)
      rw [readAll_cons, readAll_cons, hpiece, hrest]

/-- The pieces of a text. -/
def readText (s : Text) : Except TemplateError (List Piece) := readAll s.length s

/-- The first token is read, its parts by themselves, and then the rest. -/
theorem readText_cons (c : Char) (s : Text) :
    readText (c :: s) =
      (Token.first c s).1.piece readText >>= fun p =>
        (readText (Token.first c s).2).map (p :: ·) := by
  have htaken := Token.takenOff_first c s
  have hpiece : (Token.first c s).1.piece (readAll s.length) = (Token.first c s).1.piece readText :=
    Token.piece_congr fun part hpart =>
      readAll_eq (htaken.parts part hpart).length_le (Nat.le_refl _)
  have hrest : readAll s.length (Token.first c s).2 = readText (Token.first c s).2 :=
    readAll_eq htaken.rest.length_le (Nat.le_refl _)
  rw [readText, List.length_cons, readAll_cons, hpiece, hrest]

end Piece

end UrlRewrite
