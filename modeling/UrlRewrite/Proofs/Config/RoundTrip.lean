import UrlRewrite.Proofs.Config.Marker

/-!
# Layouts are read as they have been written

Whatever the layout of a tree of directives is, reading it gives the tree back.

* `Reader.run_line`, `Reader.run_idle`, `Reader.run_opens` and `Reader.run_closes` say what each
  sort of line does to the blocks that are open;
* `Reader.run_lines` says that the lines of a block add its directives to the block on top, by
  induction on the layout, for any text that has further lines behind;
* `MainContext.read_layout` is the case of a whole text.
-/

namespace UrlRewrite

open Layout

/-! ### What a line does -/

namespace Reader

variable {top f : Frame} {outer : List Frame} {s t l rest : Text}

/-- The blanks in front of a text do not matter to a run. -/
theorem run_of_trimStart_eq (h : Text.trimStart s = Text.trimStart t) (top : Frame)
    (outer : List Frame) :
    run top outer s = run top outer t := by
  rw [← run_trimStart top outer s, h, run_trimStart]

/-- A run passes over blanks. -/
theorem run_append_of_isBlank {blank : Text} (h : ∀ c ∈ blank, isBlank c = true) (top : Frame)
    (outer : List Frame) (s : Text) : run top outer (blank ++ s) = run top outer s :=
  run_of_trimStart_eq (List.dropWhile_append_of_pos h) top outer

theorem run_break (h : Text.Break t rest) (top : Frame) (outer : List Frame) :
    run top outer t = run top outer rest := by
  obtain ⟨line, rfl, hline⟩ := Line.isBlank_of_break h
  exact run_append_of_isBlank hline top outer rest

/-- A run goes on as its step does. -/
theorem run_of_step {top' : Frame} {outer' : List Frame} (hs : Text.Stops isBlank s)
    (h : step top outer s = .ok (.more top' outer' rest)) :
    run top outer s = run top' outer' rest := by
  rw [run_eq, Text.trimStart, hs.dropWhile, h]

/-- Only an angle bracket with a slash ends a block other than the main context. -/
theorem afterEnd?_of_ne_lt {opening : Opening} {c : Char} (hc : c ≠ '<') (s : Text) :
    opening.afterEnd? (c :: s) = none := by
  unfold Opening.afterEnd?
  split <;> simp_all

theorem afterEnd?_of_ne_slash {opening : Opening} {c : Char} (hc : c ≠ '/') (s : Text) :
    opening.afterEnd? ('<' :: c :: s) = none := by
  unfold Opening.afterEnd?
  split <;> simp_all

/-- Nothing but a block begins with an angle bracket. -/
theorem openAny?_of_ne_lt {opening : Opening} {c : Char} (hc : c ≠ '<') (s : Text) :
    openAny? opening.inner (c :: s) = none := by
  rw [openAny?, List.findSome?_eq_none_iff]
  intro kind hkind
  rw [Opening.ofBlock?_eq_none (ne_main_of_mem_inner hkind) (by simpa using hc), Option.map_none]

/-- A run passes over a comment. -/
theorem run_comment (top : Frame) (outer : List Frame) (s : Text) :
    run top outer ('#' :: s) = run top outer (s.dropWhile (· != '\n')) := by
  refine run_of_step (.cons (by decide) s) ?_
  unfold step
  rw [afterEnd?_of_ne_lt (by decide)]
  rfl

/-- A directive on a line is added to the block on top. -/
theorem run_written {d : Directive} (h : Written d s) (ht : Line.Ends t rest) (top : Frame)
    (outer : List Frame) :
    run top outer (s ++ t) = run (top.add d) outer rest := by
  obtain ⟨behind, hread, htrim⟩ := Line.readAny_written h ht
  obtain ⟨keyword, u, rfl, hkeyword⟩ := Line.exists_keyword h
  obtain ⟨c, v, rfl, hblank, hlt, -, hcomment⟩ := Line.exists_cons_of_spells hkeyword
  have htext : c :: v ++ u ++ t = c :: (v ++ (u ++ t)) := by simp
  rw [htext] at hread ⊢
  have hstep : step top outer (c :: (v ++ (u ++ t))) = .ok (.more (top.add d) outer behind) := by
    unfold step
    simp only [afterEnd?_of_ne_lt hlt, if_neg hcomment, openAny?_of_ne_lt hlt, hread, Except.map]
  calc run top outer (c :: (v ++ (u ++ t)))
      = run (top.add d) outer behind := run_of_step (.cons hblank _) hstep
    _ = run (top.add d) outer rest := run_of_trimStart_eq htrim (top.add d) outer

/-- A run takes the directive that is written on a line. -/
theorem run_line {d : Directive} (h : Layout.Line d l) (hbreak : Text.Break t rest) (top : Frame)
    (outer : List Frame) : run top outer (l ++ t) = run (top.add d) outer rest := by
  obtain ⟨hindent, hwritten, hpad⟩ := h
  rw [List.append_assoc, List.append_assoc, run_append_of_isBlank hindent]
  exact run_written hwritten (.mk hpad hbreak) top outer

/-- An idle line changes nothing. -/
theorem run_idle (h : Idle l) (hfeed : '\n' ∉ l) (hbreak : Text.Break t rest) (top : Frame)
    (outer : List Frame) :
    run top outer (l ++ t) = run top outer rest := by
  cases htext : Text.trimStart l with
  | nil =>
    have hblank : ∀ c ∈ l, isBlank c = true := by simpa [Text.trimStart] using htext
    rw [run_append_of_isBlank hblank, run_break hbreak]
  | cons c u =>
    obtain rfl : c = '#' := by simpa [Idle, htext] using h
    -- the line is blanks and a comment, which goes up to the line break
    have hsplit : l = l.takeWhile isBlank ++ '#' :: u := by
      rw [← htext]
      exact List.takeWhile_append_dropWhile.symm
    have hindent : ∀ c ∈ l.takeWhile isBlank, isBlank c = true :=
      fun c hc => List.mem_takeWhile_imp hc
    have hu : ∀ c ∈ u, (c != '\n') = true := by
      intro c hc
      simp only [bne_iff_ne, ne_eq]
      rintro rfl
      exact hfeed (hsplit ▸ List.mem_append_right _ (List.mem_cons_of_mem _ hc))
    rw [hsplit, List.append_assoc, run_append_of_isBlank hindent, List.cons_append, run_comment,
      List.dropWhile_append_of_pos hu]
    cases hbreak with
    | feed => exact run_cons_of_isBlank (by decide) top outer rest
    | returnFeed => exact run_cons_of_isBlank (by decide) top outer rest
    | finish => rfl

/-- The first line of a block opens it. -/
theorem run_opens {kind : BlockKind} {make : List Directive → Directive} (h : Opens kind make l)
    (hplace : top.opening.kind = .virtualHost → kind ≠ .virtualHost) (hbreak : Text.Break t rest)
    (outer : List Frame) :
    ∃ f, f.opening.kind = kind ∧ f.children = [] ∧ Opening.Makes f.opening make ∧
      run top outer (l ++ t) = run f (top :: outer) rest := by
  obtain @⟨indent, marker, pad, hindent, hmarker, hpad⟩ := h
  obtain ⟨f, hopen, hkind, hchildren, hmakes⟩ := Opening.openAny?_append hplace hmarker (pad ++ t)
  refine ⟨f, hkind, hchildren, hmakes, ?_⟩
  obtain ⟨c, u, rfl, hslash⟩ := Opening.exists_of_marker hmarker
  -- the marker of a block is not the end of the one that it is in
  have hstep :
      step top outer ('<' :: c :: (u ++ (pad ++ t))) = .ok (.more f (top :: outer) (pad ++ t)) := by
    unfold step
    rw [List.cons_append, List.cons_append] at hopen
    simp only [afterEnd?_of_ne_slash hslash, hopen]
    rfl
  calc run top outer (indent ++ ('<' :: c :: u ++ pad) ++ t)
      = run top outer ('<' :: c :: (u ++ (pad ++ t))) := by
        rw [List.append_assoc, run_append_of_isBlank hindent]
        simp
    _ = run f (top :: outer) (pad ++ t) := run_of_step (.cons (by decide) _) hstep
    _ = run f (top :: outer) rest := by rw [run_append_of_isBlank hpad, run_break hbreak]

/-- Its last line closes it, and the block around it has a directive more. -/
theorem run_closes {kind : BlockKind} {d : Directive} (h : Closes kind l) (hkind : kind ≠ .main)
    (hf : f.opening.kind = kind) (hclose : f.close = .ok (some d)) (hbreak : Text.Break t rest)
    (top : Frame) (outer : List Frame) :
    run f (top :: outer) (l ++ t) = run (top.add d) outer rest := by
  obtain @⟨indent, keyword, gap, pad, hindent, hkeyword, hgap, hpad⟩ := h
  have hend := Opening.afterEnd?_append (hf ▸ hkind) (hf ▸ hkeyword) hgap (pad ++ t)
  have hstep : step f (top :: outer) ('<' :: '/' :: (keyword ++ (gap ++ '>' :: (pad ++ t)))) =
      .ok (.more (top.add d) outer (pad ++ t)) := by
    unfold step
    simp only [hend, endBlock, hclose, Except.map, Option.elim_some]
  calc run f (top :: outer) (indent ++ ('<' :: '/' :: (keyword ++ (gap ++ '>' :: pad))) ++ t)
      = run f (top :: outer) ('<' :: '/' :: (keyword ++ (gap ++ '>' :: (pad ++ t)))) := by
        rw [List.append_assoc, run_append_of_isBlank hindent]
        simp
    _ = run (top.add d) outer (pad ++ t) := run_of_step (.cons (by decide) _) hstep
    _ = run (top.add d) outer rest := by rw [run_append_of_isBlank hpad, run_break hbreak]

end Reader

/-- Directives that are added are the latest first. -/
theorem Frame.foldl_add (f : Frame) (ds : List Directive) :
    ds.foldl Frame.add f = { f with children := ds.reverse ++ f.children } := by
  induction ds generalizing f with
  | nil => rfl
  | cons d ds ih => simp [ih, Frame.add]

/-! ### What a layout is read as -/

/-- The lines of a block add its directives to the block on top. -/
theorem Reader.run_lines {place : BlockKind} {ds : List Directive} {ls : List Text}
    (h : Lines place ds ls) (s : Text) (more : List Text) (hs : Text.lines s = ls ++ more) :
    ∃ t, Text.lines t = more ∧ ∀ top outer, top.opening.kind = place →
      run top outer s = run (ds.foldl Frame.add top) outer t := by
  induction h generalizing s more with
  | nil => exact ⟨s, hs, fun _ _ _ => rfl⟩
  | idle hl _ ih =>
    obtain ⟨t, rest, rfl, hfeed, hbreak, hrest⟩ := Text.exists_of_lines_eq_cons hs
    obtain ⟨t', ht', hrun⟩ := ih rest more hrest
    refine ⟨t', ht', fun top outer htop => ?_⟩
    rw [run_idle hl hfeed hbreak, hrun top outer htop]
  | @line place d ds l ls hl _ ih =>
    obtain ⟨t, rest, rfl, -, hbreak, hrest⟩ := Text.exists_of_lines_eq_cons hs
    obtain ⟨t', ht', hrun⟩ := ih rest more hrest
    refine ⟨t', ht', fun top outer htop => ?_⟩
    rw [run_line hl hbreak, hrun (top.add d) outer htop, List.foldl_cons]
  | @block place kind make children ds first last inside ls hplace hfirst _ hlast _ ihinside ihls =>
    -- the text is the first line, the lines inside, the last line and the lines behind
    have hlines : Text.lines s = first :: (inside ++ last :: (ls ++ more)) := by simpa using hs
    obtain ⟨t, rest, rfl, -, hbreak, hrest⟩ := Text.exists_of_lines_eq_cons hlines
    obtain ⟨t₁, ht₁, hruninside⟩ := ihinside rest (last :: (ls ++ more)) hrest
    obtain ⟨t₂, rest₂, rfl, -, hbreak₂, hrest₂⟩ := Text.exists_of_lines_eq_cons ht₁
    obtain ⟨t', ht', hrun⟩ := ihls rest₂ more hrest₂
    refine ⟨t', ht', fun top outer htop => ?_⟩
    obtain ⟨f, hkind, hchildren, hmakes, hopens⟩ := run_opens hfirst (htop ▸ hplace) hbreak outer
    have hmain : kind ≠ .main := by
      obtain ⟨-, hmarker, -⟩ := hfirst
      exact Opening.ne_main_of_marker hmarker
    have hclose : (children.foldl Frame.add f).close = .ok (some (make children)) := by
      rw [Frame.foldl_add, hchildren, hmakes, List.append_nil, List.reverse_reverse]
    have hf : (children.foldl Frame.add f).opening.kind = kind := by rw [Frame.foldl_add, hkind]
    calc run top outer (first ++ t)
        = run f (top :: outer) rest := hopens
      _ = run (children.foldl Frame.add f) (top :: outer) (last ++ t₂) :=
        hruninside f (top :: outer) hkind
      _ = run (top.add (make children)) outer rest₂ :=
        run_closes hlast hmain hf hclose hbreak₂ top outer
      _ = run (ds.foldl Frame.add (top.add (make children))) outer t' := hrun _ outer htop

/-- A configuration that lays out a tree of directives is read as this tree. -/
theorem MainContext.read_layout {s : Text} {ds : List Directive}
    (h : Lines .main ds (Text.lines s)) :
    MainContext.read s = .ok ⟨ds⟩ := by
  obtain ⟨t, ht, hrun⟩ := Reader.run_lines h s [] (List.append_nil _).symm
  obtain rfl := Text.eq_nil_of_lines_eq_nil ht
  have hend :
      Reader.runAll (Frame.opened .main s) s =
        .ok ((ds.foldl Frame.add (Frame.opened .main s)), []) := by
    rw [Reader.runAll, hrun _ [] rfl, Frame.foldl_add]
    rw [Reader.run_eq]
    rfl
  rw [MainContext.read, Reader.readBlock, Opening.ofBlock?]
  simp only [hend, Except.map, Option.elim_some, Frame.foldl_add]
  simp [Frame.opened]

/-- A virtual host in a block for a module, with a rule in it, a comment and a carriage return. -/
theorem MainContext.read_layout_nested :
    ∃ r, Rule.build "^/".toList "/b c".toList "L".toList = .ok r ∧
      MainContext.read
        ("ServerName a\r\n<IfModule x>\n # b\n<virtualhost *:80>\n" ++
          "\trewriteRULE ^/ \"/b c\" [L]\n</VirtualHost>\n\n</IfModule >").toList =
        .ok ⟨[.serverName "a".toList,
          .ifModule false "x".toList [.virtualHost .any (.exactly 80) [.rule r]]]⟩ := by
  have hok : (Rule.build "^/".toList "/b c".toList "L".toList).isOk = true := by decide +kernel
  obtain ⟨r, hbuild⟩ : ∃ r, Rule.build "^/".toList "/b c".toList "L".toList = .ok r := by
    cases h : Rule.build "^/".toList "/b c".toList "L".toList with
    | error e =>
      rw [h] at hok
      cases hok
    | ok r => exact ⟨r, rfl⟩
  refine ⟨r, hbuild, read_layout ?_⟩
  have hlines : Text.lines
      ("ServerName a\r\n<IfModule x>\n # b\n<virtualhost *:80>\n" ++
        "\trewriteRULE ^/ \"/b c\" [L]\n</VirtualHost>\n\n</IfModule >").toList =
      ["ServerName a", "<IfModule x>", " # b", "<virtualhost *:80>",
        "\trewriteRULE ^/ \"/b c\" [L]", "</VirtualHost>", "",
        "</IfModule >"].map String.toList := by
    decide +kernel
  have hname : Layout.Line (.serverName "a".toList) "ServerName a".toList :=
    @Layout.Line.mk _ [] "ServerName a".toList [] (by decide)
      (@Written.serverName "ServerName".toList " ".toList "a".toList (by decide) (by decide)
        (by decide)) (by decide)
  have hrule : Layout.Line (.rule r) "\trewriteRULE ^/ \"/b c\" [L]".toList :=
    @Layout.Line.mk _ "\t".toList "rewriteRULE ^/ \"/b c\" [L]".toList [] (by decide)
      (.rule
        (@TwoFields.mk _ _ _ _ "rewriteRULE".toList " ".toList "^/".toList " ".toList
          "\"/b c\"".toList " [L]".toList (by decide) (by decide) (.bare (by decide)) (by decide)
          (.quoted (by decide)) (@Flags.present " ".toList "L".toList (by decide) (by decide)))
        hbuild) (by decide)
  have hopenhost :
      Opens .virtualHost (.virtualHost .any (.exactly 80)) "<virtualhost *:80>".toList :=
    @Opens.mk _ _ [] "<virtualhost *:80>".toList [] (by decide)
      (@Marker.virtualHost "virtualhost".toList " ".toList "*".toList ":80".toList [] _ _
        (by decide) (by decide) .star
        (@Port.number "80".toList (by decide) (by decide) (by decide) (by decide)) (by decide))
      (by decide)
  have hclosehost : Closes .virtualHost "</VirtualHost>".toList :=
    @Closes.mk _ [] "VirtualHost".toList [] [] (by decide) (by decide) (by decide) (by decide)
  have hopenmodule : Opens .ifModule (.ifModule false "x".toList) "<IfModule x>".toList :=
    @Opens.mk _ _ [] "<IfModule x>".toList [] (by decide)
      (@Marker.ifModule "IfModule".toList " ".toList "x".toList [] false (by decide) (by decide)
        (by decide) (by decide) (by decide) (by decide) (by decide)) (by decide)
  have hclosemodule : Closes .ifModule "</IfModule >".toList :=
    @Closes.mk _ [] "IfModule".toList " ".toList [] (by decide) (by decide) (by decide) (by decide)
  have hhost :=
    @Lines.block .ifModule _ _ _ _ _ _ _ _ (by decide) hopenhost (.line hrule .nil) hclosehost
      (@Lines.idle _ _ [] _ (by decide) .nil)
  rw [hlines]
  exact .line hname (.block (by decide) hopenmodule (.idle (by decide) hhost) hclosemodule .nil)

end UrlRewrite
