import UrlRewrite.Config.Selection
import UrlRewrite.Proofs.Config.Descent
import UrlRewrite.Proofs.Config.Written
import UrlRewrite.Request.Basic

/-!
# Host names

A server name of a configuration and the host that a request asks for may both have a port, which
does not belong to the name. Both are cut at the last colon, if there are only digits behind it. The
host of a request is left as it is, however, if there is another colon in front of this one, since
then it is an address without brackets and its last group is no port. The server name is cut there
too.

Cut at the last colon means that there is no further one behind it (`Text.splitLast_eq_some_iff`),
so that both agree exactly if no digits end the text behind a double colon
(`Directive.hostname_eq_withoutPort_iff`). Otherwise the one is shorter than the other, so that they
are not taken for the same name in any case of their letters either: `VirtualHost.name_rank_iff`
says that a virtual host is then not found under its own name.
-/

namespace UrlRewrite

open Layout

namespace Text

variable {sep : Char} {s a b : Text}

theorem splitLast_eq_none_iff : splitLast sep s = none ↔ sep ∉ s := by
  induction s with
  | nil => simp [splitLast]
  | cons c s ih =>
    rw [splitLast, List.mem_cons, not_or]
    cases hsplit : splitLast sep s with
    | some parts =>
      have hmem : ¬ sep ∉ s := fun h => by simp [ih.2 h] at hsplit
      simp [hmem]
    | none =>
      have hmem := ih.1 hsplit
      by_cases hc : c = sep
      · simp [hc]
      · simp [hc, hmem, Ne.symm hc]

/-- A text is cut at its last separator, with none behind it. -/
theorem splitLast_eq_some_iff : splitLast sep s = some (a, b) ↔ s = a ++ sep :: b ∧ sep ∉ b := by
  constructor
  · intro h
    refine ⟨eq_append_of_splitLast h, ?_⟩
    -- the separator is the last one if there is none behind it, which the recursion finds out first
    induction s generalizing a with
    | nil => simp [splitLast] at h
    | cons c s ih =>
      rw [splitLast] at h
      split at h
      · rename_i front back hsplit
        obtain ⟨-, rfl⟩ := Prod.mk.inj (Option.some.inj h)
        exact ih hsplit
      · rename_i hsplit
        obtain ⟨-, heq⟩ := (Option.ite_none_right_eq_some).1 h
        obtain ⟨-, rfl⟩ := Prod.mk.inj (Option.some.inj heq)
        exact splitLast_eq_none_iff.1 hsplit
  · rintro ⟨rfl, hb⟩
    induction a with
    | nil =>
      rw [List.nil_append, splitLast, splitLast_eq_none_iff.2 hb]
      simp
    | cons c a ih => rw [List.cons_append, splitLast, ih]

/-- A word behind which there is something stands in the text. -/
theorem infix_of_behindFirst? {word rest : Text} (h : behindFirst? word s = some rest) :
    word <:+: s := by
  induction s with
  | nil =>
    rw [behindFirst?] at h
    exact ⟨[], rest, (eq_append_of_isPrefixOf? h).symm⟩
  | cons c s ih =>
    rw [behindFirst?] at h
    split at h
    · rename_i behind hprefix
      exact ⟨[], behind, (eq_append_of_isPrefixOf? hprefix).symm⟩
    · exact (ih h).trans (List.suffix_cons c s).isInfix

/-- **A double colon at the end**: two colons, and then nothing but digits. -/
def EndsInDoubleColon (s : Text) : Prop :=
  ∃ front digits : Text, s = front ++ ':' :: ':' :: digits ∧ digits.all Char.isDigit = true

theorem colon_not_mem_of_all_isDigit (h : b.all Char.isDigit = true) : ':' ∉ b := fun hmem =>
  absurd (List.all_eq_true.1 h ':' hmem) (by decide)

/-- Such a text is cut behind the first one of the two colons. -/
theorem endsInDoubleColon_iff (hsplit : splitLast ':' s = some (a, b)) :
    EndsInDoubleColon s ↔ b.all Char.isDigit = true ∧ a.getLast? = some ':' := by
  constructor
  · rintro ⟨front, digits, rfl, hdigits⟩
    have hcut : splitLast ':' (front ++ ':' :: ':' :: digits) = some (front ++ [':'], digits) :=
      splitLast_eq_some_iff.2 ⟨List.append_cons front ':' _, colon_not_mem_of_all_isDigit hdigits⟩
    obtain ⟨rfl, rfl⟩ := Prod.mk.inj (Option.some.inj (hcut.symm.trans hsplit))
    exact ⟨hdigits, by simp⟩
  · rintro ⟨hdigits, hlast⟩
    obtain ⟨front, rfl⟩ := List.getLast?_eq_some_iff.1 hlast
    refine ⟨front, b, ?_, hdigits⟩
    rw [(splitLast_eq_some_iff.1 hsplit).1, ← List.append_cons]

end Text

open Text

namespace Directive

variable {x : Text}

/-- Without a scheme, a server name is cut only at its port. -/
theorem hostname_eq (hscheme : ¬ "://".toList <:+: x) :
    hostname x =
      match x.splitLast ':' with
      | some (host, port) => if port.all Char.isDigit then host else x
      | none => x := by
  have hnone : behindFirst? "://".toList x = none :=
    Option.eq_none_iff_forall_ne_some.2 fun rest h => hscheme (infix_of_behindFirst? h)
  rw [hostname, hnone]
  rfl

/-- Digits behind a double colon are taken off a server name, and not off the host of a request. -/
theorem of_endsInDoubleColon (hscheme : ¬ "://".toList <:+: x) (h : EndsInDoubleColon x) :
    Request.withoutPort x = x ∧ (hostname x).length < x.length := by
  cases hsplit : x.splitLast ':' with
  | none =>
    -- without a colon there is no double one
    obtain ⟨front, digits, rfl, -⟩ := h
    exact absurd (by simp) (splitLast_eq_none_iff.1 hsplit)
  | some parts =>
    obtain ⟨a, b⟩ := parts
    obtain ⟨hb, ha⟩ := (endsInDoubleColon_iff hsplit).1 h
    refine ⟨by simp [Request.withoutPort, hsplit, ha], ?_⟩
    rw [hostname_eq hscheme, hsplit]
    simp only [hb, if_true]
    rw [(splitLast_eq_some_iff.1 hsplit).1, List.length_append, List.length_cons]
    omega

/-- The name that a server name tells is the host that a request asks for, but for a double colon at
the end. -/
theorem hostname_eq_withoutPort (hscheme : ¬ "://".toList <:+: x) (h : ¬ EndsInDoubleColon x) :
    hostname x = Request.withoutPort x := by
  rw [hostname_eq hscheme, Request.withoutPort]
  cases hsplit : x.splitLast ':' with
  | none => rfl
  | some parts =>
    obtain ⟨a, b⟩ := parts
    rw [endsInDoubleColon_iff hsplit] at h
    by_cases hb : b.all Char.isDigit = true
    · have ha : a.getLast? ≠ some ':' := fun ha => h ⟨hb, ha⟩
      simp [hb, ha]
    · simp [hb]

theorem hostname_eq_withoutPort_iff (hscheme : ¬ "://".toList <:+: x) :
    hostname x = Request.withoutPort x ↔ ¬ EndsInDoubleColon x := by
  refine ⟨fun heq h => ?_, hostname_eq_withoutPort hscheme⟩
  obtain ⟨hwhole, hlt⟩ := of_endsInDoubleColon hscheme h
  rw [heq, hwhole] at hlt
  exact Nat.lt_irrefl _ hlt

/-- A server name is read as it is written. -/
theorem consume_serverName {keyword gap t rest : Text}
    (hkeyword : Spells DirectiveKind.serverName.name keyword) (hgap : IsGap gap) (hx : IsBare x)
    (ht : Line.Ends t rest) :
    consume .serverName (keyword ++ (gap ++ x) ++ t) =
      .ok (some (.serverName x), trimStart rest) := by
  obtain ⟨behind, hread, htrim⟩ := Line.read_append (.serverName hkeyword hgap hx) ht
  have hline :
      Line.read .serverName (keyword ++ (gap ++ x) ++ t) = .ok (some (.serverName x, behind)) :=
    hread
  rw [consume_of_line rfl, hline, ← htrim]

end Directive

namespace VirtualHost

variable {h : VirtualHost} {x : Text}

/-- The last server name that counts in the host is written like this. -/
def Declares (h : VirtualHost) (x : Text) : Prop :=
  ∃ front back, h.active = front ++ .serverName x :: back ∧ ∀ d ∈ back, d.kind ≠ .serverName

theorem serverName?_of_declares (hdeclares : h.Declares x) :
    h.serverName? = some (Directive.hostname x) := by
  obtain ⟨front, back, hactive, hback⟩ := hdeclares
  rw [serverName?, Directive.lastServerName?, hactive, List.reverse_append, List.reverse_cons,
    List.append_assoc, List.findSome?_append, Option.or_eq_some_iff]
  refine Or.inr ⟨List.findSome?_eq_none_iff.2 fun d hd => ?_, rfl⟩
  have hkind := hback d (List.mem_reverse.1 hd)
  cases d with
  | serverName name => exact absurd rfl hkind
  | _ => rfl

/-- A host is found under the name that it declares, but for a double colon at the end. -/
theorem name_rank_iff (hscheme : ¬ "://".toList <:+: x) (hdeclares : h.Declares x)
    (mainName : Option Text) (ip : Text) (port : Nat) :
    (h.rank mainName ip port (some (Request.withoutPort x))).name = .strict ↔
      ¬ EndsInDoubleColon x := by
  have hname : (h.rank mainName ip port (some (Request.withoutPort x))).name =
      if sameAsciiCase (Directive.hostname x) (Request.withoutPort x) then .strict else .none := by
    simp only [rank, serverName?_of_declares hdeclares, Option.some_or]
  rw [hname]
  constructor
  · intro hstrict hends
    cases hsame : sameAsciiCase (Directive.hostname x) (Request.withoutPort x) with
    | false => simp [hsame] at hstrict
    | true =>
      -- the names differ in length
      obtain ⟨hwhole, hlt⟩ := Directive.of_endsInDoubleColon hscheme hends
      rw [hwhole] at hsame
      exact absurd (length_of_sameAsciiCase hsame) (Nat.ne_of_lt hlt)
  · intro hends
    rw [Directive.hostname_eq_withoutPort hscheme hends]
    simp [sameAsciiCase]

end VirtualHost

namespace Directive

/-- **Host names.** A text without blanks, quotes and a scheme is read as a server name. The name
that this tells is the host that a request with the same text in its header asks for, and a virtual
host that declares it is found under it, exactly if no digits end the text behind a double colon. -/
theorem serverName_asked (x : Text) (hx : IsBare x) (hscheme : ¬ "://".toList <:+: x) :
    (∀ keyword gap t rest, Spells DirectiveKind.serverName.name keyword → IsGap gap →
      Line.Ends t rest →
      consume .serverName (keyword ++ (gap ++ x) ++ t) =
        .ok (some (.serverName x), trimStart rest)) ∧
    (hostname x = Request.withoutPort x ↔ ¬ EndsInDoubleColon x) ∧
    ∀ r : Request, r.header? "Host".toList = some x → r.host? = some (Request.withoutPort x) ∧
      ∀ h : VirtualHost, h.Declares x → ∀ mainName ip port,
        ((h.rank mainName ip port r.host?).name = .strict ↔ ¬ EndsInDoubleColon x) := by
  refine ⟨fun _ _ _ _ hkeyword hgap ht => consume_serverName hkeyword hgap hx ht,
    hostname_eq_withoutPort_iff hscheme, fun r hheader => ?_⟩
  have hhost : r.host? = some (Request.withoutPort x) := by
    rw [Request.host?, hheader, Option.map_some]
  refine ⟨hhost, fun h hdeclares mainName ip port => ?_⟩
  rw [hhost]
  exact VirtualHost.name_rank_iff hscheme hdeclares mainName ip port

/-- A text without slashes has no scheme. -/
theorem not_infix_of_slash_not_mem (h : '/' ∉ x) : ¬ "://".toList <:+: x := fun hinside =>
  h (hinside.subset (by decide))

/-- A name with a port, which neither side takes for a part of it. -/
theorem serverName_asked_port :
    IsBare "www.example.com:8080".toList ∧ ¬ "://".toList <:+: "www.example.com:8080".toList ∧
      consume .serverName "servername\twww.example.com:8080\r\n  Listen 80".toList =
        .ok (some (.serverName "www.example.com:8080".toList), "Listen 80".toList) ∧
      hostname "www.example.com:8080".toList = "www.example.com".toList ∧
      Request.withoutPort "www.example.com:8080".toList = "www.example.com".toList ∧
      ∀ mainName ip port,
        ((VirtualHost.mk .any .any [.serverName "www.example.com:8080".toList]).rank
          mainName ip port
          { method := [], uri := [],
            headers := [("host".toList, "www.example.com:8080".toList)] : Request }.host?).name =
          .strict := by
  have hx : IsBare "www.example.com:8080".toList := by decide
  have hscheme : ¬ "://".toList <:+: "www.example.com:8080".toList :=
    not_infix_of_slash_not_mem (by decide)
  obtain ⟨hread, hsame, hhost⟩ := serverName_asked _ hx hscheme
  have hends : ¬ EndsInDoubleColon "www.example.com:8080".toList := hsame.1 (by decide)
  have hline : Line.Ends "\r\n  Listen 80".toList "  Listen 80".toList :=
    @Line.Ends.mk [] _ _ (by decide) (.returnFeed _)
  refine ⟨hx, hscheme, hread "servername".toList "\t".toList _ _ (by decide) (by decide) hline,
    by decide, by decide, fun mainName ip port => ?_⟩
  obtain ⟨-, hrank⟩ :=
    hhost { method := [], uri := [], headers := [("host".toList, "www.example.com:8080".toList)] }
      (by decide +kernel)
  exact (hrank _ ⟨[], [], rfl, by simp⟩ mainName ip port).2 hends

/-- An address without brackets is cut as a server name, so that its virtual host is not found under
it. -/
theorem not_serverName_asked :
    (¬ ∀ x : Text, IsBare x → ¬ "://".toList <:+: x → hostname x = Request.withoutPort x) ∧
      ¬ ∀ (x : Text) (r : Request) (h : VirtualHost) (mainName : Option Text)
        (ip : Text) (port : Nat),
        IsBare x → ¬ "://".toList <:+: x → r.header? "Host".toList = some x → h.Declares x →
        (h.rank mainName ip port r.host?).name = .strict := by
  have hx : IsBare "fe80::1".toList := by decide
  have hscheme : ¬ "://".toList <:+: "fe80::1".toList := not_infix_of_slash_not_mem (by decide)
  refine ⟨fun hall => ?_, fun hall => ?_⟩
  · have hsame := hall "fe80::1".toList hx hscheme
    revert hsame
    decide
  · have hstrict :=
      hall "fe80::1".toList
        { method := [], uri := [], headers := [("Host".toList, "fe80::1".toList)] }
        ⟨.any, .any, [.serverName "fe80::1".toList]⟩ none [] 80 hx hscheme (by decide +kernel)
        ⟨[], [], rfl, by simp⟩
    revert hstrict
    decide +kernel

end Directive

end UrlRewrite
