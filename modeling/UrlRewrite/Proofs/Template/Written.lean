import Mathlib.Data.List.Forall2
import UrlRewrite.Template.Reader
import UrlRewrite.Proofs.Text.Pieces

/-!
# Templates read back

Every piece has a text that it is written as (`Piece.written`): a character behind a backslash, a
reference as the grammar has it. Outside of table references a character that begins no reference
can also stand alone (`Piece.Spells`).

Reading gives back the pieces that were written, whatever they are and in whatever order they stand
(`Template.read_of_spells`). A text is cut into one part for each piece, and a part is read as its
piece whatever follows it (`Piece.ReadFrom`), so neighbours do not matter: `Piece.readAll_flatten`
folds this along the list.

The one place where what follows matters is inside a table reference. The scanner of keys and
defaults knows neither escapes nor groups. It looks only for the characters that end the part, and
takes `%{..}` as a whole if a further closing brace follows. So a piece is copied by it if its own
literal character ends nothing and what follows does not begin with an opening brace and still has a
closing one (`Token.Scans.cut_written`).
-/

namespace UrlRewrite

/-! ### How pieces are written -/

namespace Piece

mutual

/-- A piece as a template writes it. -/
def written : Piece → Text
  | .literal c => ['\\', c]
  | .group .rule index => ['$', Nat.digitChar index]
  | .group .condition index => ['%', Nat.digitChar index]
  | .entry table key default =>
    '$' :: '\x7b' :: (table ++ ':' :: (writtenAll key ++ (writtenDefault default ++ ['\x7d'])))
  | .server v => v.written
  | .env name => '%' :: '\x7b' :: ("ENV:".toList ++ name ++ ['\x7d'])

/-- Pieces as a template writes them, one behind the other. -/
def writtenAll : List Piece → Text
  | [] => []
  | piece :: pieces => written piece ++ writtenAll pieces

/-- A default and the bar in front of it; nothing if there is none. -/
def writtenDefault : Option (List Piece) → Text
  | none => []
  | some pieces => '|' :: writtenAll pieces

end

/-- The texts that stand for a piece outside of table references. -/
def Spells (p : Piece) (w : Text) : Prop :=
  w = p.written ∨ ∃ c, p = .literal c ∧ c ≠ '\\' ∧ c ≠ '$' ∧ c ≠ '%' ∧ w = [c]

/-- A piece other than a table reference that can be written. -/
def IsPlain : Piece → Prop
  | .literal _ => True
  | .group _ index => index < groupLimit
  | .entry .. => False
  | .server _ => True
  | .env name => name ≠ [] ∧ '\x7d' ∉ name

/-- A plain piece for a part of a table reference that any of `ends` would end. -/
def FitsIn (ends : List Char) : Piece → Prop
  | .literal c => c ∉ ends
  | p => p.IsPlain

/-- A piece that can be written. A bar ends a key, and a closing brace a key and a default. -/
def Writable : Piece → Prop
  | .entry table key default =>
    table ≠ [] ∧ (∀ c ∈ table, Token.isTableChar c = true) ∧
      (∀ p ∈ key, p.FitsIn ['|', '\x7d']) ∧ ∀ ps ∈ default, ∀ p ∈ ps, p.FitsIn ['\x7d']
  | p => p.IsPlain

/-- Pieces are written one behind the other. -/
theorem writtenAll_eq_flatten (ps : List Piece) : writtenAll ps = (ps.map written).flatten := by
  induction ps with
  | nil => rfl
  | cons p ps ih => rw [writtenAll, ih, List.map_cons, List.flatten_cons]

theorem FitsIn.isPlain {ends : List Char} {p : Piece} (h : p.FitsIn ends) : p.IsPlain := by
  cases p with
  | literal c => trivial
  | _ => exact h

end Piece

/-! ### Characters of digits and of names -/

section Characters

variable {i : Nat}

theorem isDigit_digitChar (h : i < groupLimit) : isDigit (Nat.digitChar i) = true :=
  (by decide : ∀ i < groupLimit, isDigit (Nat.digitChar i) = true) i h

/-- The digit of a group is none of the characters that the grammar knows. -/
theorem digitChar_ne (h : i < groupLimit) {c : Char} (hc : isDigit c = false) :
    Nat.digitChar i ≠ c := by
  rintro rfl
  rw [isDigit_digitChar h] at hc
  cases hc

/-- A digit behind the sign is read as the index of a group. -/
theorem Token.groupFirst_digitChar (kind : GroupKind) (h : i < groupLimit) :
    Token.groupFirst kind (Nat.digitChar i) = .group kind i := by
  have hdigit :
      ∀ i < groupLimit, (Nat.digitChar i).isDigit = true ∧ (Nat.digitChar i).toNat - 48 = i := by
    decide
  obtain ⟨hi, hvalue⟩ := hdigit i h
  rw [Token.groupFirst, if_pos hi, hvalue]

/-- The name of a server variable does not close its reference. -/
theorem ServerVariable.brace_not_mem_name (v : ServerVariable) : '\x7d' ∉ v.name.toList := by
  cases v <;> decide

/-- The name of a server variable is not taken for that of a variable set by a rule. -/
theorem ServerVariable.isPrefixOf?_name (v : ServerVariable) :
    List.isPrefixOf? "ENV:".toList v.name.toList = none := by
  cases v <;> decide

end Characters

/-! ### Keys and defaults -/

namespace Token

variable {β : Type}

/-- What a scanner of a part of a table reference does with the characters that do not end the
part. -/
structure Scans (ends : List Char) (cut : Bool → Text → Option (Text × β)) : Prop where
  /-- A unit in braces is copied up to its closing brace. -/
  inUnit : ∀ c s, cut true (c :: s) = (cut (c != '\x7d') s).map (Prod.map (c :: ·) id)
  /-- A character that does not end the part is copied; a percent sign may open a unit. -/
  outside :
    ∀ c s,
      c ∉ ends → cut false (c :: s) = (cut (c == '%' && opensUnit s) s).map (Prod.map (c :: ·) id)
  /-- Only a bar and a closing brace end parts. -/
  ends_subset : ends ⊆ ['|', '\x7d']

/-- Cutting off a default is scanning for the closing brace. -/
theorem scans_cutDefault : Scans ['\x7d'] cutDefault where
  inUnit c s := rfl
  outside c s hc := by
    rw [cutDefault, if_neg (by decide), if_neg (by simpa using hc)]
    rfl
  ends_subset := by simp

/-- Cutting off a key is scanning for the bar or the closing brace. -/
theorem scans_cutKey : Scans ['|', '\x7d'] cutKey where
  inUnit c s := rfl
  outside c s hc := by
    obtain ⟨hbar, hbrace⟩ : c ≠ '|' ∧ c ≠ '\x7d' := by simpa using hc
    rw [cutKey, if_neg (by decide), if_neg hbrace, if_neg hbar]
    rfl
  ends_subset := List.Subset.refl _

/-- What may follow a piece inside a table reference: no opening brace next, and a closing brace
somewhere. -/
def Closes (s : Text) : Prop := s.head? ≠ some '\x7b' ∧ '\x7d' ∈ s

theorem Closes.opensUnit {s : Text} (h : Closes s) : opensUnit s = false := by
  simp [Token.opensUnit, h.1]

/-- A unit in braces with a closing brace behind it. -/
theorem opensUnit_append (name : Text) {s : Text} (h : '\x7d' ∈ s) :
    opensUnit ('\x7b' :: (name ++ '\x7d' :: s)) = true := by
  have hcount : 0 < s.count '\x7d' := List.count_pos_iff.2 h
  have htwo : 2 ≤ ('\x7b' :: (name ++ '\x7d' :: s)).count '\x7d' := by
    rw [List.count_cons_of_ne (by decide), List.count_append, List.count_cons_self]
    omega
  simpa [opensUnit] using htwo

/-- The writing of a piece begins with a backslash, a dollar sign or a percent sign. -/
theorem Closes.written {p : Piece} {s : Text} (h : Closes s) : Closes (p.written ++ s) := by
  refine ⟨?_, List.mem_append_right _ h.2⟩
  cases p with
  | group kind i => cases kind <;> simp [Piece.written]
  | server v => simp [Piece.written, ServerVariable.written]
  | _ => simp [Piece.written]

/-- Pieces that are written in front of what closes an entry do not change that it is closed. -/
theorem Closes.writtenAll (ps : List Piece) {s : Text} (h : Closes s) :
    Closes (Piece.writtenAll ps ++ s) := by
  induction ps with
  | nil => exact h
  | cons p ps ih =>
    rw [Piece.writtenAll, List.append_assoc]
    exact ih.written

namespace Scans

variable {ends : List Char} {cut : Bool → Text → Option (Text × β)} {p : Piece} {s : Text}

theorem not_mem_ends (h : Scans ends cut) {c : Char} (hc : c ∉ ['|', '\x7d']) : c ∉ ends :=
  fun hmem => hc (h.ends_subset hmem)

/-- A character that ends nothing and opens no unit belongs to the part. -/
theorem cut_char (h : Scans ends cut) {c : Char} (hc : c ∉ ends)
    (hunit : (c == '%' && opensUnit s) = false) :
    cut false (c :: s) = (cut false s).map (Prod.map ([c] ++ ·) id) := by
  rw [h.outside c s hc, hunit]
  rfl

/-- The rest of a unit in braces is copied. -/
theorem cut_unit (h : Scans ends cut) {name : Text} (hname : '\x7d' ∉ name) :
    cut true (name ++ '\x7d' :: s) = (cut false s).map (Prod.map (name ++ ['\x7d'] ++ ·) id) := by
  induction name with
  | nil => exact h.inUnit '\x7d' s
  | cons c name ih =>
    obtain ⟨hc, hname⟩ : c ≠ '\x7d' ∧ '\x7d' ∉ name := by simpa [eq_comm] using hname
    rw [List.cons_append, h.inUnit, bne_iff_ne.2 hc, ih hname, Option.map_map]
    rfl

/-- A variable in braces is copied as a whole. -/
theorem cut_variable (h : Scans ends cut) (hs : Closes s) {name : Text} (hname : '\x7d' ∉ name) :
    cut false ('%' :: '\x7b' :: (name ++ '\x7d' :: s)) =
      (cut false s).map (Prod.map ('%' :: '\x7b' :: (name ++ ['\x7d']) ++ ·) id) := by
  rw [h.outside _ _ (h.not_mem_ends (by decide)), opensUnit_append name hs.2]
  rw [show ('%' == '%' && true) = true from rfl, h.inUnit]
  rw [show ('\x7b' != '\x7d') = true from rfl, h.cut_unit hname, Option.map_map, Option.map_map]
  rfl

/-- A piece that fits into the part is copied. -/
theorem cut_written (h : Scans ends cut) (hp : p.FitsIn ends) (hs : Closes s) :
    cut false (p.written ++ s) = (cut false s).map (Prod.map (p.written ++ ·) id) := by
  have hdollar : '$' ∉ ends := h.not_mem_ends (by decide)
  have hpercent : '%' ∉ ends := h.not_mem_ends (by decide)
  cases p with
  | literal c =>
    -- no unit begins behind a percent sign that is a literal, because of what follows the piece
    have hunit : (c == '%' && opensUnit s) = false := by rw [hs.opensUnit, Bool.and_false]
    simp only [Piece.written, List.cons_append, List.nil_append]
    rw [h.cut_char (h.not_mem_ends (by decide)) rfl, h.cut_char hp hunit, Option.map_map]
    rfl
  | group kind i =>
    have hbar : Nat.digitChar i ≠ '|' := digitChar_ne hp (by decide)
    have hbrace : Nat.digitChar i ≠ '\x7d' := digitChar_ne hp (by decide)
    have hdigit : Nat.digitChar i ∉ ends := h.not_mem_ends (by simp [hbar, hbrace])
    have hbehind : (Nat.digitChar i == '%' && opensUnit s) = false := by
      simp [digitChar_ne hp (show isDigit '%' = false by decide)]
    have hunit : opensUnit (Nat.digitChar i :: s) = false := by
      simp [opensUnit, digitChar_ne hp (show isDigit '\x7b' = false by decide)]
    cases kind with
    | rule =>
      simp only [Piece.written, List.cons_append, List.nil_append]
      rw [h.cut_char hdollar rfl, h.cut_char hdigit hbehind, Option.map_map]
      rfl
    | condition =>
      simp only [Piece.written, List.cons_append, List.nil_append]
      rw [h.cut_char hpercent (by rw [hunit, Bool.and_false]), h.cut_char hdigit hbehind,
        Option.map_map]
      rfl
  | entry table key default => exact hp.elim
  | server v =>
    have hwritten : (Piece.server v).written = '%' :: '\x7b' :: (v.name.toList ++ ['\x7d']) := rfl
    rw [hwritten]
    simpa using h.cut_variable hs v.brace_not_mem_name
  | env name =>
    have hname : '\x7d' ∉ "ENV:".toList ++ name := by
      simpa using hp.2
    simpa [Piece.written] using h.cut_variable hs hname

/-- Pieces that fit into the part are copied, and then comes what ends it. -/
theorem cut_writtenAll (h : Scans ends cut) {ps : List Piece} (hps : ∀ p ∈ ps, p.FitsIn ends)
    (hs : Closes s) :
    cut false (Piece.writtenAll ps ++ s) =
      (cut false s).map (Prod.map (Piece.writtenAll ps ++ ·) id) := by
  induction ps with
  | nil => exact (congrFun Option.map_id (cut false s)).symm
  | cons p ps ih =>
    obtain ⟨hp, hps⟩ := List.forall_mem_cons.1 hps
    have hrest : Closes (Piece.writtenAll ps ++ s) := hs.writtenAll ps
    rw [Piece.writtenAll, List.append_assoc, h.cut_written hp hrest, ih hps, Option.map_map]
    simp only [Function.comp_def, Prod.map_map, List.append_assoc, id_eq]
    rfl

end Scans

/-- The key of an entry ends where its default or the entry ends. -/
theorem cutKey_written {key : List Piece} {default : Option (List Piece)} {s : Text}
    (hkey : ∀ p ∈ key, p.FitsIn ['|', '\x7d'])
    (hdefault : ∀ ps ∈ default, ∀ p ∈ ps, p.FitsIn ['\x7d']) :
    cutKey false (Piece.writtenAll key ++ (Piece.writtenDefault default ++ '\x7d' :: s)) =
      some (Piece.writtenAll key, default.map Piece.writtenAll, s) := by
  have hend : Closes ('\x7d' :: s) := ⟨by simp, by simp⟩
  cases default with
  | none =>
    rw [Piece.writtenDefault, List.nil_append, scans_cutKey.cut_writtenAll hkey hend]
    simp [cutKey]
  | some ps =>
    have hbar : Closes ('|' :: (Piece.writtenAll ps ++ '\x7d' :: s)) := ⟨by simp, by simp⟩
    have hps :
        cutDefault false (Piece.writtenAll ps ++ '\x7d' :: s) = some (Piece.writtenAll ps, s) := by
      rw [scans_cutDefault.cut_writtenAll (hdefault ps rfl) hend]
      simp [cutDefault]
    rw [Piece.writtenDefault, List.cons_append, scans_cutKey.cut_writtenAll hkey hbar]
    simp [cutKey, hps]

/-- An entry is taken apart into the table, the key and the default that it is written with. -/
theorem entryFirst_written {table : Text} {key : List Piece} {default : Option (List Piece)}
    {s : Text} (hne : table ≠ []) (htable : ∀ c ∈ table, isTableChar c = true)
    (hkey : ∀ p ∈ key, p.FitsIn ['|', '\x7d'])
    (hdefault : ∀ ps ∈ default, ∀ p ∈ ps, p.FitsIn ['\x7d']) :
    entryFirst
      (table ++ ':' :: (Piece.writtenAll key ++ (Piece.writtenDefault default ++ '\x7d' :: s))) =
      (.entry table (Piece.writtenAll key) (default.map Piece.writtenAll), s) := by
  have hcolon : isTableChar ':' = false := by decide
  have hstop := fun body => Text.Stops.cons hcolon body
  obtain ⟨c, more, rfl⟩ := List.exists_cons_of_ne_nil hne
  simp only [entryFirst, Text.takeWhile_append htable (hstop _),
    Text.dropWhile_append htable (hstop _), cutKey_written hkey hdefault]

/-- The name of a server variable is read up to the closing brace. -/
theorem variableFirst_server (v : ServerVariable) (s : Text) :
    variableFirst (v.name.toList ++ '\x7d' :: s) = (.server v.name.toList, s) := by
  simp only [variableFirst, Text.splitFirst_append v.brace_not_mem_name, v.isPrefixOf?_name]

theorem variableFirst_env {name : Text} (hne : name ≠ []) (hname : '\x7d' ∉ name) (s : Text) :
    variableFirst ("ENV:".toList ++ name ++ '\x7d' :: s) = (.env name, s) := by
  have hwhole : '\x7d' ∉ "ENV:".toList ++ name := by simpa using hname
  have hprefix : List.isPrefixOf? "ENV:".toList ("ENV:".toList ++ name) = some name := rfl
  obtain ⟨c, more, rfl⟩ := List.exists_cons_of_ne_nil hne
  simp only [variableFirst, Text.splitFirst_append hwhole, hprefix]

end Token

/-! ### Reading what is written -/

namespace Piece

/-- The token that a plain piece is written as. -/
def token : Piece → Token
  | .literal c => .literal c
  | .group kind index => .group kind index
  | .entry table key default => .entry table (writtenAll key) (default.map writtenAll)
  | .server v => .server v.name.toList
  | .env name => .env name

/-- The token is taken off the writing of its piece, whatever follows. -/
theorem first_written {p : Piece} (h : p.Writable) :
    ∃ c t, p.written = c :: t ∧ ∀ s, Token.first c (t ++ s) = (p.token, s) := by
  -- behind a sign, a digit is a group, and a bracket opens an entry or a variable
  cases p with
  | literal c => exact ⟨'\\', [c], rfl, fun s => rfl⟩
  | group kind i =>
    have hdigit := isDigit_digitChar h
    have hgroup := Token.groupFirst_digitChar kind h
    cases kind with
    | rule =>
      exact ⟨'$', [Nat.digitChar i], rfl, fun s => by simp [Token.first, hdigit, hgroup, token]⟩
    | condition =>
      exact ⟨'%', [Nat.digitChar i], rfl, fun s => by simp [Token.first, hdigit, hgroup, token]⟩
  | entry table key default =>
    obtain ⟨hne, htable, hkey, hdefault⟩ := h
    refine ⟨'$', _, rfl, fun s => ?_⟩
    simp only [List.cons_append, List.append_assoc, List.nil_append]
    exact Token.entryFirst_written hne htable hkey hdefault
  | server v =>
    refine ⟨'%', '\x7b' :: (v.name.toList ++ ['\x7d']), rfl, fun s => ?_⟩
    simp only [List.cons_append, List.append_assoc, List.nil_append]
    exact Token.variableFirst_server v s
  | env name =>
    refine ⟨'%', _, rfl, fun s => ?_⟩
    simp only [List.cons_append, List.append_assoc, List.nil_append]
    rw [← List.append_assoc]
    exact Token.variableFirst_env h.1 h.2 s

/-- The piece is read from `w` in one step, whatever follows. -/
def ReadFrom (p : Piece) (w : Text) : Prop :=
  w ≠ [] ∧ ∀ n s, w.length ≤ n + 1 → readAll (n + 1) (w ++ s) = (readAll n s).map (p :: ·)

/-- The texts that pieces are read from are read as these pieces, one behind the other. -/
theorem readAll_flatten {ws : List Text} {ps : List Piece} (h : List.Forall₂ ReadFrom ps ws)
    {n : Nat} (hn : ws.flatten.length ≤ n) : readAll n ws.flatten = .ok ps := by
  induction h generalizing n with
  | nil => cases n <;> rfl
  | @cons p w ps ws hw _ ih =>
    obtain ⟨hne, hread⟩ := hw
    -- a spelling takes one step of the reader, and it has one character at least
    have hpos : 0 < w.length := List.length_pos_of_ne_nil hne
    rw [List.flatten_cons, List.length_append] at hn
    obtain ⟨m, rfl⟩ : ∃ m, n = m + 1 := Nat.exists_eq_add_one_of_ne_zero (by omega)
    rw [List.flatten_cons, hread m ws.flatten (by omega), ih (by omega)]
    rfl

/-- A step of reading ends like that of the rest. -/
theorem bind_cons (p : Piece) (r : Except TemplateError (List Piece)) :
    (r >>= fun ps => .ok (p :: ps)) = r.map (p :: ·) := by
  cases r <;> rfl

/-- A step that takes off the token of a plain piece. -/
theorem readAll_of_first {p : Piece} (h : p.IsPlain) {c : Char} {t s : Text}
    (hfirst : Token.first c t = (p.token, s)) (n : Nat) :
    readAll (n + 1) (c :: t) = (readAll n s).map (p :: ·) := by
  rw [← bind_cons, readAll, hfirst]
  cases p with
  | entry table key default => exact h.elim
  | server v =>
    simp only [token, v.read?_name]
    rfl
  | _ => rfl

/-- A plain piece is read from what is written for it. -/
theorem readFrom_of_isPlain {p : Piece} (h : p.IsPlain) (hwritable : p.Writable) :
    ReadFrom p p.written := by
  obtain ⟨c, t, hwritten, hfirst⟩ := first_written hwritable
  rw [hwritten]
  exact ⟨List.cons_ne_nil c t, fun n s _ => readAll_of_first h (hfirst s) n⟩

theorem FitsIn.writable {ends : List Char} {p : Piece} (h : p.FitsIn ends) : p.Writable := by
  cases p with
  | literal c => trivial
  | entry table key default => exact h.elim
  | _ => exact h

/-- A part of a table reference is read by as many steps as it has characters. -/
theorem readAll_writtenAll {ends : List Char} {ps : List Piece} (h : ∀ p ∈ ps, p.FitsIn ends)
    {n : Nat} (hn : (writtenAll ps).length ≤ n) : readAll n (writtenAll ps) = .ok ps := by
  have hparts : List.Forall₂ ReadFrom ps (ps.map written) := by
    rw [List.forall₂_map_right_iff, List.forall₂_same]
    exact fun p hp => readFrom_of_isPlain (h p hp).isPlain (h p hp).writable
  rw [writtenAll_eq_flatten] at hn ⊢
  exact readAll_flatten hparts hn

/-- An entry is read from what is written for it. -/
theorem readFrom_entry {table : Text} {key : List Piece} {default : Option (List Piece)}
    (h : (entry table key default).Writable) :
    ReadFrom (entry table key default) (entry table key default).written := by
  obtain ⟨c, t, hwritten, hfirst⟩ := first_written h
  obtain ⟨-, -, hkey, hdefault⟩ := h
  -- the key and the default are shorter than the entry, so that there is fuel left for both
  have hlength : (writtenAll key).length + (writtenDefault default).length < (c :: t).length := by
    rw [← hwritten]
    simp only [written, List.length_cons, List.length_append]
    omega
  rw [hwritten]
  refine ⟨List.cons_ne_nil c t, fun n s hn => ?_⟩
  have hkeyRead : readAll n (writtenAll key) = .ok key := readAll_writtenAll hkey (by omega)
  rw [← bind_cons, List.cons_append, readAll, hfirst]
  cases default with
  | none =>
    simp only [token, Option.map_none, hkeyRead]
    rfl
  | some ps =>
    have hps : readAll n (writtenAll ps) = .ok ps := by
      refine readAll_writtenAll (hdefault ps rfl) ?_
      rw [writtenDefault, List.length_cons] at hlength
      omega
    simp only [token, Option.map_some, hkeyRead, hps]
    rfl

/-- Every piece that can be written is read from what is written for it. -/
theorem readFrom_written {p : Piece} (h : p.Writable) : ReadFrom p p.written := by
  cases p with
  | entry table key default => exact readFrom_entry h
  | _ => exact readFrom_of_isPlain h h

/-- Outside of table references a character that begins no reference is read as itself. -/
theorem readFrom_of_spells {p : Piece} {w : Text} (h : p.Writable) (hw : p.Spells w) :
    ReadFrom p w := by
  obtain rfl | ⟨c, rfl, hback, hdollar, hpercent, rfl⟩ := hw
  · exact readFrom_written h
  · refine ⟨List.cons_ne_nil c [], fun n s _ => ?_⟩
    have hfirst : Token.first c s = (.literal c, s) := by
      cases s with
      | nil => rfl
      | cons d s => rw [Token.first, if_neg hback, if_neg hdollar, if_neg hpercent]
    exact readAll_of_first (p := .literal c) h hfirst n

end Piece

namespace Template

/-- A template is read where its pieces are. -/
theorem exists_of_readAll {s : Text} {ps : List Piece} (h : Piece.readAll s.length s = .ok ps) :
    ∃ t, read s = .ok t ∧ t.pieces = ps := by
  refine ⟨⟨s, ps, h⟩, ?_, rfl⟩
  unfold read
  split
  · rename_i pieces hread
    obtain rfl : ps = pieces := Except.ok.inj (h.symm.trans hread)
    rfl
  · rename_i e hread
    exact absurd (h.symm.trans hread) (by simp)

/-- Pieces are read back from any of their spellings, in whatever order they stand. In particular
every text can be written so that the template renders to it under all bindings: with a backslash in
front of each character. -/
theorem read_of_spells :
    (∀ (ps : List Piece) (ws : List Text), (∀ p ∈ ps, p.Writable) →
      List.Forall₂ Piece.Spells ps ws →
      ∃ t, read ws.flatten = .ok t ∧ t.pieces = ps) ∧
    ∀ s : Text, ∃ t, read (s.flatMap fun c => ['\\', c]) = .ok t ∧ ∀ b escape,
      t.render b escape = s := by
  have hspelled (ps : List Piece) (ws : List Text) (hps : ∀ p ∈ ps, p.Writable)
      (hws : List.Forall₂ Piece.Spells ps ws) : ∃ t, read ws.flatten = .ok t ∧ t.pieces = ps := by
    -- each spelling is read in one step, whatever follows it, and so they are read one by one
    have hboth := (List.forall₂_and_left ps ws).2 ⟨hps, hws⟩
    have hparts : List.Forall₂ Piece.ReadFrom ps ws :=
      hboth.imp fun p w h => Piece.readFrom_of_spells h.1 h.2
    exact exists_of_readAll (Piece.readAll_flatten hparts (Nat.le_refl _))
  refine ⟨hspelled, fun s => ?_⟩
  -- a text with all its characters escaped spells literals
  have hwritable : ∀ p ∈ s.map Piece.literal, p.Writable := by
    intro p hp
    obtain ⟨c, -, rfl⟩ := List.mem_map.1 hp
    trivial
  have hspells : List.Forall₂ Piece.Spells (s.map .literal) (s.map fun c => ['\\', c]) := by
    rw [List.forall₂_map_left_iff, List.forall₂_map_right_iff, List.forall₂_same]
    exact fun c _ => .inl rfl
  obtain ⟨t, hread, hpieces⟩ := hspelled _ _ hwritable hspells
  refine ⟨t, hread, fun b escape => ?_⟩
  rw [render, hpieces, Piece.renderAll_map_literal]

/-- A character that stands alone, a group, and an entry. What would end its key stands in the name
of a variable, and the percent sign in front of the bar is a literal. -/
theorem read_of_spells_entry :
    ∃ t, read "a$1$\x7bm:%\x7bENV:|\x7d\\%|\\|%\x7bTIME\x7d\x7d".toList = .ok t ∧
      t.pieces = [.literal 'a', .group .rule 1,
        .entry ['m'] [.env ['|'], .literal '%'] (some [.literal '|', .server .time])] := by
  have hletter : Token.isTableChar 'm' = true := by decide
  have halone : (Piece.literal 'a').Spells ['a'] :=
    .inr ⟨'a', rfl, by decide, by decide, by decide, rfl⟩
  have hread := read_of_spells.1
    [.literal 'a', .group .rule 1,
      .entry ['m'] [.env ['|'], .literal '%'] (some [.literal '|', .server .time])]
    [['a'], ['$', '1'], _]
    (by simp [Piece.Writable, Piece.IsPlain, Piece.FitsIn, hletter, groupLimit])
    (.cons halone (.cons (.inl rfl) (.cons (.inl rfl) .nil)))
  exact hread

end Template

end UrlRewrite
