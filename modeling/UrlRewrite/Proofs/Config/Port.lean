import UrlRewrite.Proofs.Config.Marker

/-!
# Ports of virtual hosts

The port in the marker of a virtual host is `*` or a decimal number of 16 bits, perhaps behind a
plus sign (`Opening.AsksFor`). That is what is made of the characters that are taken for it
(`Opening.declaredPort_eq_ok_iff`), and a marker with any others is rejected with them.

What is taken for the port are the first five characters behind the colon, without quotes around
them (`Opening.portFront`); whatever else there is up to the bracket is skipped
(`Opening.virtualHost?_append_run`). If the port as a whole asks for one, then so does its front
(`Opening.exists_asksFor_portFront`), but perhaps for another, and the front may also ask for a port
although the whole does not. `Directive.virtualHost_port` says so of markers: none is rejected
wrongly, and a port counts as a whole exactly if its front asks for nothing else.
-/

namespace UrlRewrite

open Layout

namespace Opening

variable {p : Text} {port : Wildcard Nat}

/-- `AsksFor p port`: the text of a port, as a whole, is the one of this port. -/
inductive AsksFor : Text → Wildcard Nat → Prop
  | star : AsksFor "*".toList .any
  | number {sign digits : Text} (hsign : sign = [] ∨ sign = ['+']) (hne : digits ≠ [])
      (hdigits : digits.Each (·.isDigit = true))
      (hmax : Nat.ofDigitChars 10 digits 0 ≤ Text.maxPort) :
      AsksFor (sign ++ digits) (.exactly (Nat.ofDigitChars 10 digits 0))

theorem readNat_of_sign {sign digits : Text} (hsign : sign = [] ∨ sign = ['+']) (hne : digits ≠ [])
    (hdigits : digits.Each (·.isDigit = true))
    (hmax : Nat.ofDigitChars 10 digits 0 ≤ Text.maxPort) :
    Text.readNat Text.maxPort (sign ++ digits) = .ok (Nat.ofDigitChars 10 digits 0) := by
  rcases hsign with rfl | rfl
  · exact Text.readNat_of_isDigit hne hdigits hmax
  · exact Text.readNat_plus_of_isDigit hne hdigits hmax

/-- A number begins with a digit or a plus sign. -/
theorem exists_cons_of_number {sign digits : Text} (hsign : sign = [] ∨ sign = ['+'])
    (hne : digits ≠ []) (hdigits : digits.Each (·.isDigit = true)) :
    ∃ c t, sign ++ digits = c :: t ∧ (c = '+' ∨ c.isDigit = true) := by
  cases digits with
  | nil => exact absurd rfl hne
  | cons c digits =>
    rcases hsign with rfl | rfl
    · exact ⟨c, digits, rfl, .inr (hdigits c List.mem_cons_self)⟩
    · exact ⟨'+', c :: digits, rfl, .inl rfl⟩

/-- What is declared is what the text asks for. -/
theorem declaredPort_eq_ok_iff : declaredPort (some p) = .ok port ↔ AsksFor p port := by
  constructor
  · intro h
    rw [declaredPort] at h
    split at h
    · rename_i hstar
      obtain rfl := Except.ok.inj h
      exact hstar ▸ .star
    · split at h
      · rename_i n hread
        obtain rfl := Except.ok.inj h
        obtain ⟨digits, hsign, hne, hdigits, rfl, hmax⟩ := Text.exists_of_readNat hread
        rcases hsign with rfl | rfl
        · exact @AsksFor.number [] _ (.inl rfl) hne hdigits hmax
        · exact @AsksFor.number ['+'] _ (.inr rfl) hne hdigits hmax
      · simp at h
  · rintro (_ | ⟨hsign, hne, hdigits, hmax⟩)
    · rfl
    · rename_i sign digits
      obtain ⟨c, t, htext, hc⟩ := exists_cons_of_number hsign hne hdigits
      -- a number is not taken for the wildcard, which is tried first
      have hstar : sign ++ digits ≠ "*".toList := by
        rw [htext]
        rintro ⟨⟩
        exact absurd hc (by decide)
      rw [declaredPort, if_neg hstar, readNat_of_sign hsign hne hdigits hmax]

/-- What asks for no port is rejected. -/
theorem declaredPort_eq_error (h : ∀ port, ¬ AsksFor p port) :
    declaredPort (some p) = .error (.invalidField .virtualHost "port" p) := by
  cases hdeclared : declaredPort (some p) with
  | ok port => exact absurd (declaredPort_eq_ok_iff.1 hdeclared) (h port)
  | error e =>
    rw [declaredPort] at hdeclared
    split at hdeclared
    · simp at hdeclared
    · split at hdeclared
      · simp at hdeclared
      · exact hdeclared.symm

/-- A text asks for one port at most. -/
theorem AsksFor.unique {port' : Wildcard Nat} (h : AsksFor p port) (h' : AsksFor p port') :
    port = port' := by
  rw [← declaredPort_eq_ok_iff] at h h'
  exact Except.ok.inj (h.symm.trans h')

/-! ### The front of a port -/

/-- What is taken for the port of a marker. -/
def portFront (p : Text) : Text := Line.unquote (p.take 5)

/-- Fewer digits do not mean more. -/
theorem ofDigitChars_take_le (n : Nat) (digits : Text) :
    Nat.ofDigitChars 10 (digits.take n) 0 ≤ Nat.ofDigitChars 10 digits 0 := by
  conv_rhs => rw [← List.take_append_drop n digits, Nat.ofDigitChars_append]
  exact Text.le_ofDigitChars _ _

/-- If the whole asks for a port, its front asks for one. -/
theorem exists_asksFor_portFront (h : AsksFor p port) : ∃ port', AsksFor (portFront p) port' := by
  cases h with
  | star => exact ⟨.any, .star⟩
  | @number sign digits hsign hne hdigits hmax =>
    obtain ⟨c, t, htext, hc⟩ := exists_cons_of_number hsign hne hdigits
    have hquote : ((sign ++ digits).take 5).head? ≠ some '"' := by
      rw [htext, List.take_succ_cons, List.head?_cons]
      rintro ⟨⟩
      exact absurd hc (by decide)
    have hlength : sign.length ≤ 1 := by rcases hsign with rfl | rfl <;> simp
    -- the front keeps the sign and some of the digits, and their number is no greater
    have hfront : portFront (sign ++ digits) = sign ++ digits.take (5 - sign.length) := by
      rw [portFront, Line.unquote_of_head? hquote, List.take_append,
        List.take_of_length_le (by omega)]
    have htake : digits.take (5 - sign.length) ≠ [] := by
      rw [Ne, List.take_eq_nil_iff, not_or]
      exact ⟨by omega, hne⟩
    rw [hfront]
    exact ⟨_, .number hsign htake (fun c hc => hdigits c (List.mem_of_mem_take hc))
      (Nat.le_trans (ofDigitChars_take_le _ digits) hmax)⟩

/-- A short port without quotes is its own front. -/
theorem portFront_of_length_le (hlength : p.length ≤ 5) (hquote : p.head? ≠ some '"') :
    portFront p = p := by
  rw [portFront, List.take_of_length_le hlength, Line.unquote_of_head? hquote]

/-! ### Markers with a port -/

/-- An address without brackets. -/
def IsAddressRun (a : Text) : Prop :=
  a ≠ [] ∧ a.Each fun c => isBlank c = false ∧ c ≠ ':' ∧ c ≠ '[' ∧ c ≠ '>'

/-- A port of any length. -/
def IsPortRun (p : Text) : Prop := p ≠ [] ∧ p.Each (isMarkerChar · = true)

instance : DecidablePred IsAddressRun := fun _ => inferInstanceAs (Decidable (_ ∧ _))

instance : DecidablePred IsPortRun := fun _ => inferInstanceAs (Decidable (_ ∧ _))

/-- `HostMarker a p m`: the marker `m` begins a virtual host with the address `a` and the port
`p`. -/
inductive HostMarker (a p : Text) : Text → Prop
  | mk {keyword gap : Text} (hkeyword : Spells DirectiveKind.virtualHost.name keyword)
      (hgap : IsGap gap) (ha : IsAddressRun a) (hp : IsPortRun p) :
      HostMarker a p ('<' :: (keyword ++ (gap ++ (a ++ ':' :: (p ++ ['>'])))))

/-- `HostEnd m`: the marker `m` ends a virtual host, perhaps behind blanks. -/
inductive HostEnd : Text → Prop
  | mk {blanks keyword pad : Text} (hblanks : blanks.Each (isBlank · = true))
      (hkeyword : Spells DirectiveKind.virtualHost.name keyword) (hpad : IsPad pad) :
      HostEnd (blanks ++ '<' :: '/' :: (keyword ++ (pad ++ ['>'])))

variable {a m : Text}

/-- Behind its first five characters, a port is skipped. -/
theorem virtualHost?_append_run (hm : HostMarker a p m) (s : Text) :
    virtualHost? (m ++ s) = some (.virtualHost (Line.unquote a) (some (portFront p)), s) := by
  obtain ⟨hkeyword, hgap, ha, hp⟩ := hm
  rename_i keyword gap
  have hrun : ∀ c ∈ a, (isMarkerChar c && c != ':') = true := by
    intro c hc
    obtain ⟨hblank, hcolon, -, hend⟩ := ha.2 c hc
    simp [isMarkerChar, hblank, hcolon, hend]
  have hbracket : a.head? ≠ some '[' := fun h => (ha.2 '[' (List.mem_of_mem_head? h)).2.2.1 rfl
  -- what stands behind the five characters is passed over up to the closing bracket
  have hskipped : ∀ c ∈ p.drop 5, c ≠ '>' ∧ c ≠ '\n' := by
    intro c hc
    have hmarker := hp.2 c (List.mem_of_mem_drop hc)
    constructor <;> (rintro rfl; exact absurd hmarker (by decide))
  have hstops : Text.Stops isGap (a ++ ':' :: (p ++ '>' :: s)) :=
    .append_of_ne_nil ha.1 (fun c hc => isGap_eq_false (ha.2 c hc).1) _
  have hcolon : Text.Stops (fun c => isMarkerChar c && c != ':') (':' :: (p ++ '>' :: s)) :=
    .cons (by decide) _
  have hend : Text.Stops isMarkerChar ('>' :: s) := .cons (by decide) s
  have hmarker := afterMarker?_append hkeyword hgap hstops
  rw [DirectiveKind.name] at hmarker
  have htext : '<' :: (keyword ++ (gap ++ (a ++ ':' :: (p ++ ['>'])))) ++ s =
      '<' :: (keyword ++ (gap ++ (a ++ ':' :: (p ++ '>' :: s)))) := by simp
  rw [htext]
  simp only [virtualHost?, hmarker, Option.bind_eq_bind, Option.bind_some,
    address?_append_run ha.1 hrun hbracket hcolon, port_colon_append_run hp.1 hp.2 hend,
    markerEnd?_append_run hskipped, Option.map_some, portFront]

end Opening

/-! ### Virtual hosts -/

namespace Directive

open Opening

variable {a p m s rest : Text} {f : Frame}

/-- A virtual host with nothing in it is read to the marker that ends it. -/
theorem readBlock_of_hostEnd {last : Text} (hm : HostMarker a p m)
    (hlast : HostEnd last) (t : Text) :
    ∃ f, f.children = [] ∧
      Reader.readBlock .virtualHost (m ++ (last ++ t)) = .ok (some (f, Text.trimStart t)) := by
  obtain ⟨hblanks, hkeyword, hpad⟩ := hlast
  rename_i blanks keyword pad
  have htext : blanks ++ '<' :: '/' :: (keyword ++ (pad ++ ['>'])) ++ t =
      blanks ++ '<' :: '/' :: (keyword ++ (pad ++ '>' :: t)) := by simp
  rw [htext]
  have hopen := virtualHost?_append_run hm (blanks ++ '<' :: '/' :: (keyword ++ (pad ++ '>' :: t)))
  have hstops : Text.Stops isBlank ('<' :: '/' :: (keyword ++ (pad ++ '>' :: t))) :=
    .cons (by decide) _
  have htrim : Text.trimStart (blanks ++ '<' :: '/' :: (keyword ++ (pad ++ '>' :: t))) =
      '<' :: '/' :: (keyword ++ (pad ++ '>' :: t)) := Text.dropWhile_append hblanks hstops
  have hend :=
    @afterEnd?_append (.virtualHost (Line.unquote a) (some (portFront p))) nofun keyword pad
      hkeyword hpad t
  refine ⟨Frame.opened (.virtualHost (Line.unquote a) (some (portFront p)))
    (m ++ (blanks ++ '<' :: '/' :: (keyword ++ (pad ++ '>' :: t)))), rfl, ?_⟩
  simp only [Reader.readBlock, ofBlock?, hopen, Reader.runAll, Reader.run_eq, htrim, Reader.step,
    Frame.opened, hend, Reader.endBlock, Except.map]

/-- A virtual host has the port that the front of the one in its marker asks for. -/
theorem consume_of_readBlock (hm : HostMarker a p m)
    (hblock : Reader.readBlock .virtualHost (m ++ s) = .ok (some (f, rest))) :
    consume .virtualHost (m ++ s) = (declaredPort (some (portFront p))).map fun port =>
      (some (.virtualHost (declaredIp (Line.unquote a)) port f.children.reverse), rest) := by
  have hopen := virtualHost?_append_run hm s
  rw [Reader.readBlock, ofBlock?, hopen] at hblock
  obtain ⟨r, hrun, heq⟩ := map_eq_ok_iff.1 hblock
  obtain rfl := Option.some.inj heq
  have hopening : f.opening = .virtualHost (Line.unquote a) (some (portFront p)) :=
    Reader.opening_of_runAll hrun
  rw [consume_of_block rfl, ofBlock?, hopen]
  simp only [hrun, Frame.close, hopening]
  cases declaredPort (some (portFront p)) <;> rfl

theorem consume_of_asksFor (hm : HostMarker a p m)
    (hblock : Reader.readBlock .virtualHost (m ++ s) = .ok (some (f, rest))) {port : Wildcard Nat}
    (hport : AsksFor (portFront p) port) :
    consume .virtualHost (m ++ s) =
      .ok (some (.virtualHost (declaredIp (Line.unquote a)) port f.children.reverse), rest) := by
  rw [consume_of_readBlock hm hblock, declaredPort_eq_ok_iff.2 hport]
  rfl

theorem consume_of_not_asksFor (hm : HostMarker a p m)
    (hblock : Reader.readBlock .virtualHost (m ++ s) = .ok (some (f, rest)))
    (hnone : ∀ port, ¬ AsksFor (portFront p) port) :
    consume .virtualHost (m ++ s) = .error (.invalidField .virtualHost "port" (portFront p)) := by
  rw [consume_of_readBlock hm hblock, declaredPort_eq_error hnone]
  rfl

/-- `TakesPort p r`: a virtual host with the port `p` in its marker is read as the whole of the port
says. -/
structure TakesPort (p : Text) (r : Except ConfigError (Option Directive × Text)) : Prop where
  /-- What asks for a port is accepted, with this port. -/
  accepted :
    ∀ port, AsksFor p port → ∃ ip children rest,
      r = .ok (some (.virtualHost ip port children), rest)
  /-- Anything else is rejected as the port of a virtual host. -/
  rejected :
    (∀ port, ¬ AsksFor p port) → ∃ value, r = .error (.invalidField .virtualHost "port" value)

/-- A virtual host is read as the whole of its port says if the front says nothing else. -/
theorem takesPort_iff (hm : HostMarker a p m)
    (hblock : Reader.readBlock .virtualHost (m ++ s) = .ok (some (f, rest))) :
    TakesPort p (consume .virtualHost (m ++ s)) ↔
      ∀ port, AsksFor (portFront p) port → AsksFor p port := by
  constructor
  · intro htakes port hport
    have hread := consume_of_asksFor hm hblock hport
    -- if the whole asks for no port, it should be rejected, but its front has been accepted
    by_cases hany : ∃ port', AsksFor p port'
    · obtain ⟨port', hport'⟩ := hany
      obtain ⟨ip, children, rest', hread'⟩ := htakes.accepted port' hport'
      have hsame := hread'.symm.trans hread
      obtain ⟨⟨-, rfl, -⟩, -⟩ : (_ ∧ port' = port ∧ _) ∧ rest' = rest := by simpa using hsame
      exact hport'
    · obtain ⟨value, hread'⟩ := htakes.rejected fun port' hport' => hany ⟨port', hport'⟩
      simp [hread'] at hread
  · intro hfront
    refine ⟨fun port hport => ?_, fun hnone => ?_⟩
    · obtain ⟨port', hport'⟩ := exists_asksFor_portFront hport
      obtain rfl := hport.unique (hfront port' hport')
      exact ⟨_, _, _, consume_of_asksFor hm hblock hport'⟩
    · exact ⟨_, consume_of_not_asksFor hm hblock fun port hport => hnone port (hfront port hport)⟩

/-- **Ports.** A virtual host whose marker has a port of any length is read once its end has been
found. What is rejected then asks for no port, and it is rejected with the front of its port. It is
read as the whole of its port says exactly if the front asks for nothing that the whole does not ask
for, as it is if there are at most five characters and no quotes. -/
theorem virtualHost_port (hm : HostMarker a p m) :
    (∀ last t, HostEnd last →
      ∃ f, f.children = [] ∧
        Reader.readBlock .virtualHost (m ++ (last ++ t)) = .ok (some (f, Text.trimStart t))) ∧
    ∀ s f rest, Reader.readBlock .virtualHost (m ++ s) = .ok (some (f, rest)) →
      (∀ port, AsksFor (portFront p) port →
        consume .virtualHost (m ++ s) =
          .ok (some (.virtualHost (declaredIp (Line.unquote a)) port f.children.reverse), rest)) ∧
      ((∀ port, ¬ AsksFor (portFront p) port) → (∀ port, ¬ AsksFor p port) ∧
        consume .virtualHost (m ++ s) = .error (.invalidField .virtualHost "port" (portFront p))) ∧
      (TakesPort p (consume .virtualHost (m ++ s)) ↔
        ∀ port, AsksFor (portFront p) port → AsksFor p port) ∧
      (p.length ≤ 5 → p.head? ≠ some '"' → TakesPort p (consume .virtualHost (m ++ s))) := by
  refine ⟨fun last t hlast => readBlock_of_hostEnd hm hlast t, fun s f rest hblock => ?_⟩
  have hwhole := takesPort_iff hm hblock
  refine ⟨fun port => consume_of_asksFor hm hblock, fun hnone =>
    ⟨fun port hport => ?_, ?_⟩, hwhole, ?_⟩
  · -- if the whole asked for a port, so would its front
    obtain ⟨port', hport'⟩ := exists_asksFor_portFront hport
    exact hnone port' hport'
  · exact consume_of_not_asksFor hm hblock hnone
  · intro hlength hquote
    rw [hwhole, portFront_of_length_le hlength hquote]
    exact fun _ hport => hport

/-- A port of four digits is read as a whole. -/
theorem virtualHost_port_8080 :
    HostMarker "*".toList "8080".toList "<virtualhost\t*:8080>".toList ∧
      (∃ f, Reader.readBlock .virtualHost "<virtualhost\t*:8080>\n</VirtualHost >\nListen".toList =
        .ok (some (f, "Listen".toList))) ∧
      ∃ ip children rest,
        consume .virtualHost "<virtualhost\t*:8080>\n</VirtualHost >\nListen".toList =
        .ok (some (.virtualHost ip (.exactly 8080) children), rest) := by
  have hm : HostMarker "*".toList "8080".toList "<virtualhost\t*:8080>".toList :=
    @HostMarker.mk _ _ "virtualhost".toList "\t".toList (by decide) (by decide)
      (by decide) (by decide)
  have hlast : HostEnd "\n</VirtualHost >".toList :=
    @HostEnd.mk "\n".toList "VirtualHost".toList " ".toList (by decide) (by decide) (by decide)
  obtain ⟨hread, hport⟩ := virtualHost_port hm
  obtain ⟨f, -, hblock⟩ := hread _ "\nListen".toList hlast
  obtain ⟨-, -, -, hshort⟩ := hport _ _ _ hblock
  refine ⟨hm, ⟨f, hblock⟩, (hshort (by decide) (by decide)).accepted _ ?_⟩
  exact @AsksFor.number [] "8080".toList (.inl rfl) (by decide) (by decide) (by decide)

/-- Of six digits, the first five are taken for the port, although the six of them are too large for
one. -/
theorem not_virtualHost_port :
    ¬ ∀ (a p m s : Text) (f : Frame) (rest : Text), HostMarker a p m →
      Reader.readBlock .virtualHost (m ++ s) = .ok (some (f, rest)) →
        TakesPort p (consume .virtualHost (m ++ s)) := by
  intro hall
  have hm : HostMarker "*".toList "123456".toList "<VirtualHost *:123456>".toList :=
    @HostMarker.mk _ _ "VirtualHost".toList " ".toList (by decide) (by decide)
      (by decide) (by decide)
  have hlast : HostEnd "\n</VirtualHost>".toList :=
    @HostEnd.mk "\n".toList "VirtualHost".toList [] (by decide) (by decide) (by decide)
  obtain ⟨f, -, hblock⟩ := readBlock_of_hostEnd hm hlast []
  have hfront : AsksFor (portFront "123456".toList) (.exactly 12345) :=
    declaredPort_eq_ok_iff.1 (by decide)
  have hwhole := (takesPort_iff hm hblock).1 (hall _ _ _ _ _ _ hm hblock) _ hfront
  exact absurd (declaredPort_eq_ok_iff.2 hwhole) (by decide)

end Directive

end UrlRewrite
