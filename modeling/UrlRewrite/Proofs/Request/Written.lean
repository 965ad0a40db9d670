import UrlRewrite.Proofs.Bindings.Seed
import UrlRewrite.Proofs.Text.Words
import UrlRewrite.Result

/-!
# Requests are read as they have been written

A request that has been read can be written down again: its first line, as the server variable
`THE_REQUEST` has it, and a line for each of its headers, in any order. Reading this gives the
request back (`Request.readsBack_of_read`), so that nothing that a request holds gets lost or is
taken for something else.

It comes from what reading makes sure of (`Request.IsRead`), which no type says: the parts of the
first line are words, names of headers are not empty and have no colon, names and values have no
blanks at their ends and no line feed, and no name is given twice, in whatever case. The last of
these is kept by every header that is set (`Headers.distinct_set`), and with it the order of the
headers does not matter (`Headers.same_of_perm`).
-/

namespace UrlRewrite

/-- Two names are the same if their foldings are. -/
theorem Text.sameFolded_iff {s t : Text} : sameFolded s t = true ↔ foldCase s = foldCase t := by
  simp [sameFolded]

theorem Text.sameFolded_comm (s t : Text) : sameFolded s t = sameFolded t s := by
  rw [Bool.eq_iff_iff, sameFolded_iff, sameFolded_iff, eq_comm]

/-! ### Tables of headers -/

namespace Headers

variable {hs hs' : Headers} {name value : Text}

/-- No name is given twice, in whatever case. -/
def Distinct (hs : Headers) : Prop := hs.Pairwise fun h h' => Text.sameFolded h.1 h'.1 = false

theorem Distinct.perm (h : Distinct hs) (hperm : hs.Perm hs') : Distinct hs' :=
  List.Pairwise.perm h hperm fun hne => by rwa [Text.sameFolded_comm]

/-- A header is found by its name, which no other one has. -/
theorem get?_eq_some_iff (h : Distinct hs) :
    get? name hs = some value ↔ ∃ header ∈ hs, Text.sameFolded header.1 name = true ∧
      header.2 = value := by
  induction hs with
  | nil => simp [get?]
  | cons first hs ih =>
    obtain ⟨hne, h⟩ := List.pairwise_cons.1 h
    rw [get?]
    split
    · rename_i hsame
      constructor
      · exact fun heq => ⟨first, List.mem_cons_self, hsame, Option.some.inj heq⟩
      · rintro ⟨header, hmem, hheader, rfl⟩
        rcases List.mem_cons.1 hmem with rfl | hbehind
        · rfl
        · -- a header behind the first one has another name
          have hboth := (Text.sameFolded_iff.1 hsame).trans (Text.sameFolded_iff.1 hheader).symm
          exact absurd (Text.sameFolded_iff.2 hboth) (Bool.eq_false_iff.1 (hne header hbehind))
    · rename_i hdifferent
      rw [ih h]
      constructor
      · exact fun ⟨header, hmem, hheader⟩ => ⟨header, List.mem_cons_of_mem first hmem, hheader⟩
      · rintro ⟨header, hmem, hheader⟩
        rcases List.mem_cons.1 hmem with rfl | hbehind
        · exact absurd hheader.1 hdifferent
        · exact ⟨header, hbehind, hheader⟩

/-- Distinct headers are found whatever their order. -/
theorem get?_perm (h : Distinct hs) (hperm : hs.Perm hs') (name : Text) :
    get? name hs = get? name hs' := by
  refine Option.ext fun value => ?_
  rw [get?_eq_some_iff h, get?_eq_some_iff (h.perm hperm)]
  simp only [hperm.mem_iff]

/-- The order of headers does not matter. -/
theorem same_of_perm (h : Distinct hs) (hperm : hs.Perm hs') : same hs hs' = true := by
  have hall : ∀ header ∈ hs, get? header.1 hs' = some header.2 := fun header hmem => by
    rw [← get?_perm h hperm, get?_eq_some_iff h]
    exact ⟨header, hmem, Text.sameFolded_iff.2 rfl, rfl⟩
  simpa [same, hperm.length_eq] using hall

/-- The headers with a value set are the old ones with other values, or with a new one behind
them. -/
theorem set_of_forall (h : ∀ header ∈ hs, Text.sameFolded header.1 name = false) (value : Text) :
    set name value hs = hs ++ [(name, value)] := by
  induction hs with
  | nil => rfl
  | cons first hs ih =>
    obtain ⟨hfirst, hbehind⟩ := List.forall_mem_cons.1 h
    rw [set, if_neg (Bool.eq_false_iff.1 hfirst), ih hbehind, List.cons_append]

/-- Setting a header brings no other names and values into a table than its own. -/
theorem forall_mem_set {P Q : Text → Prop} (h : ∀ header ∈ hs, P header.1 ∧ Q header.2)
    (hname : P name) (hvalue : Q value) :
    ∀ header ∈ set name value hs, P header.1 ∧ Q header.2 := by
  induction hs with
  | nil => exact fun header hmem => List.mem_singleton.1 hmem ▸ ⟨hname, hvalue⟩
  | cons first hs ih =>
    obtain ⟨hfirst, hbehind⟩ := List.forall_mem_cons.1 h
    rw [set]
    split
    · -- the name stays as it was written first
      exact List.forall_mem_cons.2 ⟨⟨hfirst.1, hvalue⟩, hbehind⟩
    · exact List.forall_mem_cons.2 ⟨hfirst, ih hbehind⟩

/-- Setting a header leaves headers distinct. -/
theorem distinct_set (h : Distinct hs) (name value : Text) : Distinct (set name value hs) := by
  induction hs with
  | nil => exact List.pairwise_singleton _ _
  | cons first hs ih =>
    obtain ⟨hne, h⟩ := List.pairwise_cons.1 h
    rw [set]
    split
    · exact List.pairwise_cons.2 ⟨hne, h⟩
    · rename_i hdifferent
      -- it is only the names that matter
      have hbehind :
          ∀ header ∈ set name value hs, Text.sameFolded first.1 header.1 = false ∧ True :=
        forall_mem_set (P := (Text.sameFolded first.1 · = false)) (Q := fun _ => True)
          (fun header hmem => ⟨hne header hmem, trivial⟩) (Bool.eq_false_iff.2 hdifferent) trivial
      exact List.pairwise_cons.2 ⟨fun header hmem => (hbehind header hmem).1, ih h⟩

/-- The line that a header is written as. -/
def lineOf (header : Text × Text) : Text := header.1 ++ ':' :: ' ' :: header.2

end Headers

/-! ### Headers that lines tell -/

/-- The names of headers that lines can tell. -/
structure IsHeaderName (name : Text) : Prop where
  ne_nil : name ≠ []
  trimmed : Text.Trimmed name
  colon_not_mem : ':' ∉ name
  feed_not_mem : '\n' ∉ name

/-- The values of headers that lines can tell. -/
structure IsHeaderValue (value : Text) : Prop where
  trimmed : Text.Trimmed value
  feed_not_mem : '\n' ∉ value

/-- A line tells a header with such a name and such a value. -/
theorem isHeader_of_headerOfLine? {line name value : Text}
    (h : Request.headerOfLine? line = some (name, value)) (hline : '\n' ∉ line) :
    IsHeaderName name ∧ IsHeaderValue value := by
  obtain ⟨⟨before, behind⟩, hsplit, htrim⟩ := Option.bind_eq_some_iff.1 h
  obtain ⟨rfl, hcolon⟩ := Text.eq_append_of_splitFirst hsplit
  obtain ⟨hne, heq⟩ := Option.ite_none_left_eq_some.1 htrim
  obtain ⟨rfl, rfl⟩ := Prod.mk.inj (Option.some.inj heq)
  exact
    ⟨{ ne_nil := fun hnil => hne (List.isEmpty_iff.2 hnil)
       trimmed := Text.trimmed_trim before
       colon_not_mem := fun hmem => hcolon (Text.trim_subset before hmem)
       feed_not_mem := fun hmem => hline (List.mem_append_left _ (Text.trim_subset before hmem)) },
     { trimmed := Text.trimmed_trim behind
       feed_not_mem := fun hmem =>
         hline (List.mem_append_right _ (List.mem_cons_of_mem _ (Text.trim_subset behind hmem))) }⟩

section Written

variable {header : Text × Text} (hname : IsHeaderName header.1) (hvalue : IsHeaderValue header.2)

include hname in
theorem trim_lineOf_ne_nil : Text.trim (Headers.lineOf header) ≠ [] := by
  obtain ⟨c, rest, hcons⟩ := List.exists_cons_of_ne_nil hname.ne_nil
  have hmem : c ∈ header.1 := by simp [hcons]
  exact Text.trim_ne_nil (List.mem_append_left _ hmem) (hname.trimmed.front c (by simp [hcons]))

include hvalue in
/-- There is no carriage return at the end of the line, where it would be taken for a part of the
line end. -/
theorem dropReturn_lineOf : Text.dropReturn (Headers.lineOf header) = Headers.lineOf header := by
  refine Text.dropReturn_eq fun c hc => ?_
  cases hlast : header.2.getLast? with
  | none =>
    -- the line of an empty value ends with the gap behind the colon
    obtain rfl : ' ' = c := by simpa [Headers.lineOf, List.getLast?_cons, hlast] using hc
    decide
  | some d =>
    obtain rfl : d = c := by simpa [Headers.lineOf, List.getLast?_cons, hlast] using hc
    exact Text.ne_of_isBlank_eq_false (hvalue.trimmed.isBlank_getLast? d hlast) (by decide)

include hname hvalue

/-- The line of a header tells this header. -/
theorem headerOfLine?_lineOf : Request.headerOfLine? (Headers.lineOf header) = some header := by
  have hne : ¬ header.1.isEmpty = true := fun h => hname.ne_nil (List.isEmpty_iff.1 h)
  have hgap : Text.trim (' ' :: header.2) = header.2 := by
    rw [Text.trim_cons_of_isBlank (by decide), hvalue.trimmed.trim_eq]
  rw [Request.headerOfLine?, Headers.lineOf, Text.splitFirst_append hname.colon_not_mem,
    Option.bind_eq_bind, Option.bind_some]
  simp only [hname.trimmed.trim_eq, hgap, if_neg hne]

theorem feed_not_mem_lineOf : '\n' ∉ Headers.lineOf header := by
  simp [Headers.lineOf, hname.feed_not_mem, hvalue.feed_not_mem]

end Written

/-! ### Requests that have been read -/

namespace Request

/-- **What reading makes sure of.** -/
structure IsRead (r : Request) : Prop where
  method : Text.IsWord r.method
  uri : Text.IsWord r.uri
  version : Text.IsWord r.version
  version_begins : "HTTP/".toList.isPrefixOf r.version = true
  headers : ∀ header ∈ r.headers, IsHeaderName header.1 ∧ IsHeaderValue header.2
  distinct : Headers.Distinct r.headers
  peer : r.peer = none

/-- Without headers, it is only the first line that matters. -/
theorem IsRead.of_words {method uri version : Text} (hmethod : Text.IsWord method)
    (huri : Text.IsWord uri) (hversion : Text.IsWord version)
    (hbegins : "HTTP/".toList.isPrefixOf version = true) :
    IsRead { method, uri, version } where
  method := hmethod
  uri := huri
  version := hversion
  version_begins := hbegins
  headers := by simp
  distinct := List.Pairwise.nil
  peer := rfl

/-- What is read from a line of a request has what a request that is read has. -/
theorem isRead_of_ofLine? {line : Text} {r : Request} (h : ofLine? line = some r) : r.IsRead := by
  have hword : ∀ w ∈ Text.words line, Text.IsWord w := fun w => Text.isWord_of_mem_words
  rw [ofLine?] at h
  split at h
  · rename_i method uri hwords
    obtain rfl := Option.some.inj h
    rw [hwords] at hword
    exact .of_words (hword method (by simp)) (hword uri (by simp))
      (.of_all rfl (by decide)) (by decide)
  · rename_i method uri version hwords
    obtain ⟨hbegins, h⟩ := Option.ite_none_right_eq_some.1 h
    obtain rfl := Option.some.inj h
    rw [hwords] at hword
    exact .of_words (hword method (by simp)) (hword uri (by simp)) (hword version (by simp)) hbegins
  · cases h

/-- A header with a proper name and value can be set on a request that is read. -/
theorem IsRead.setHeader {r : Request} (h : r.IsRead) {name value : Text}
    (hname : IsHeaderName name) (hvalue : IsHeaderValue value) :
    (r.setHeader name value).IsRead where
  method := h.method
  uri := h.uri
  version := h.version
  version_begins := h.version_begins
  headers := Headers.forall_mem_set h.headers hname hvalue
  distinct := Headers.distinct_set h.distinct name value
  peer := h.peer

/-- A request that is read stays one when headers are read from lines. -/
theorem IsRead.addLines {r r' : Request} (h : r.IsRead) {lines : List Text}
    (hlines : ∀ line ∈ lines, '\n' ∉ line) (hread : r.addLines lines = .ok r') : r'.IsRead := by
  -- the invariant is that the request is one that can be read, which each header keeps
  induction lines generalizing r with
  | nil => exact Except.ok.inj hread ▸ h
  | cons line lines ih =>
    obtain ⟨hline, hlines⟩ := List.forall_mem_cons.1 hlines
    rw [Request.addLines] at hread
    split at hread
    · exact Except.ok.inj hread ▸ h
    · split at hread
      · cases hread
      · rename_i name value hheader
        obtain ⟨hname, hvalue⟩ := isHeader_of_headerOfLine? hheader hline
        exact ih (h.setHeader hname hvalue) hlines hread

/-- Every request that is read from a text has what is said of requests that are read. -/
theorem isRead_of_read {s : Text} {r : Request} (h : read s = .ok r) : r.IsRead := by
  rw [read] at h
  split at h
  · cases h
  · rename_i line lines hlines
    have hfeed : ∀ l ∈ lines, '\n' ∉ l := fun l hl =>
      Text.not_mem_of_mem_lines
        ((List.dropWhile_suffix _).subset (hlines ▸ List.mem_cons_of_mem line hl))
    split at h
    · cases h
    · rename_i first hfirst
      exact (isRead_of_ofLine? hfirst).addLines hfeed h

/-! ### Writing and reading -/

theorem line_eq (r : Request) : r.line = r.method ++ ' ' :: (r.uri ++ ' ' :: r.version) := by
  simp [line, Text.joinWith]

/-- Headers with different names are set one behind the other. -/
theorem addLines_lineOf {r : Request} (set : Headers) {hs : Headers}
    (hheaders : ∀ header ∈ hs, IsHeaderName header.1 ∧ IsHeaderValue header.2)
    (hdistinct : Headers.Distinct (set ++ hs)) :
    addLines { r with headers := set } (hs.map Headers.lineOf) =
      .ok { r with headers := set ++ hs } := by
  induction hs generalizing set with
  | nil => rw [List.append_nil]; rfl
  | cons header hs ih =>
    obtain ⟨⟨hname, hvalue⟩, hbehind⟩ := List.forall_mem_cons.1 hheaders
    -- the next header has a name of its own, so that it takes no other header's place
    have hne : ∀ other ∈ set, Text.sameFolded other.1 header.1 = false := fun other hmem =>
      (List.pairwise_append.1 hdistinct).2.2 other hmem header List.mem_cons_self
    have hset :
        setHeader { r with headers := set } header.1 header.2 =
          { r with headers := set ++ [header] } := by
      rw [setHeader, Headers.set_of_forall hne]
    rw [List.append_cons] at hdistinct ⊢
    rw [List.map_cons, addLines, if_neg (by simp [trim_lineOf_ne_nil hname]),
      headerOfLine?_lineOf hname hvalue]
    simp only [hset]
    exact ih _ hbehind hdistinct

namespace IsRead

variable {r : Request} (h : r.IsRead)

include h

/-- The line of a request has three words. -/
theorem words_line : Text.words r.line = [r.method, r.uri, r.version] := by
  rw [line_eq, Text.words_append h.method (by decide), Text.words_append h.uri (by decide),
    Text.words_eq_singleton h.version]

/-- The line of a request is read again. -/
theorem ofLine?_line : ofLine? r.line = some { r with headers := [] } := by
  rw [ofLine?, words_line h]
  simp only [if_pos h.version_begins, h.peer]

theorem trim_line_ne_nil : Text.trim r.line ≠ [] := by
  obtain ⟨c, hmem, hc⟩ := h.method.exists_not_blank
  rw [line_eq]
  exact Text.trim_ne_nil (List.mem_append_left _ hmem) hc

theorem feed_not_mem_line : '\n' ∉ r.line := by
  simp [line_eq, h.method.not_mem, h.uri.not_mem, h.version.not_mem,
    show isBlank '\n' = true by decide]

theorem dropReturn_line : Text.dropReturn r.line = r.line := by
  refine Text.dropReturn_eq fun c hc => ?_
  cases hlast : r.version.getLast? with
  | none => exact absurd (List.getLast?_eq_none_iff.1 hlast) h.version.ne_nil
  | some d =>
    obtain rfl : d = c := by simpa [line_eq, List.getLast?_cons, hlast] using hc
    exact Text.ne_of_isBlank_eq_false (h.version.not_blank d (List.mem_of_getLast? hlast))
      (by decide)

/-- A request is read from its lines. -/
theorem read_of_lines {t : Text} (ht : Text.lines t = r.line :: r.headers.map Headers.lineOf) :
    read t = .ok r := by
  have hfirst : ¬ (Text.trim r.line).isEmpty = true := by simp [trim_line_ne_nil h]
  rw [read, ht, List.dropWhile_cons_of_neg (p := fun l : Text => (Text.trim l).isEmpty) hfirst]
  simp only [ofLine?_line h]
  exact addLines_lineOf [] h.headers h.distinct

/-- Nothing gets lost at the ends of the lines. -/
theorem lines_ofLines :
    Text.lines (Text.ofLines (r.line :: r.headers.map Headers.lineOf)) =
      r.line :: r.headers.map Headers.lineOf := by
  have hfeed : ∀ l ∈ r.line :: r.headers.map Headers.lineOf, '\n' ∉ l := by
    refine List.forall_mem_cons.2 ⟨feed_not_mem_line h, List.forall_mem_map.2 fun header hmem => ?_⟩
    exact feed_not_mem_lineOf (h.headers header hmem).1 (h.headers header hmem).2
  have hreturn : ∀ l ∈ r.line :: r.headers.map Headers.lineOf, Text.dropReturn l = l := by
    refine List.forall_mem_cons.2 ⟨dropReturn_line h, List.forall_mem_map.2 fun header hmem => ?_⟩
    exact dropReturn_lineOf (h.headers header hmem).2
  rw [Text.lines_ofLines hfeed]
  exact (List.map_congr_left hreturn).trans (List.map_id' _)

/-- The order of the headers has no say in what reading makes sure of. -/
theorem perm {hs : Headers} (hperm : hs.Perm r.headers) : IsRead { r with headers := hs } where
  method := h.method
  uri := h.uri
  version := h.version
  version_begins := h.version_begins
  headers header hmem := h.headers header (hperm.mem_iff.1 hmem)
  distinct := h.distinct.perm hperm.symm
  peer := h.peer

end IsRead

/-- **A request that is written down is read as it is**, with its headers in this order. -/
structure ReadsBack (r : Request) (hs : Headers) : Prop where
  /-- The first line that is written is the one that rules get to see. -/
  first :
    ∀ server now tables, (Bindings.ofRequest r server now tables).server? .theRequest = some r.line
  /-- Lines that line feeds end are lines again. -/
  lines :
    Text.lines (Text.ofLines (r.line :: hs.map Headers.lineOf)) = r.line :: hs.map Headers.lineOf
  /-- Whatever ends the lines, reading them gives all of the request back. -/
  read : ∀ t, Text.lines t = r.line :: hs.map Headers.lineOf → read t = .ok { r with headers := hs }
  /-- The order of the headers is all that may have changed. -/
  same : r.same { r with headers := hs } = true
  header? : ∀ name, ({ r with headers := hs } : Request).header? name = r.header? name

/-- **A request that has been read reads back**, with its headers in any order. -/
theorem readsBack_of_read {s : Text} {r : Request} (hread : read s = .ok r) {hs : Headers}
    (hperm : hs.Perm r.headers) : r.ReadsBack hs := by
  have h := isRead_of_read hread
  exact
    { first := Bindings.server?_ofRequest_theRequest r
      lines := (h.perm hperm).lines_ofLines
      read := fun t => (h.perm hperm).read_of_lines
      same := by simp [same, Headers.same_of_perm h.distinct hperm.symm]
      header? := fun name => (Headers.get?_perm h.distinct hperm.symm name).symm }

/-- A request without a version and with blanks around everything, one of whose headers is given
twice and another one is empty. -/
theorem readsBack_of_read_blanks :
    ∃ r, read "\n GET  /a \r\nHOST: x\n empty :\nhost:  y: z \r\n\nbody".toList = .ok r ∧
      r.headers = [("HOST".toList, "y: z".toList), ("empty".toList, [])] ∧
      read "GET /a HTTP/0.9\r\nempty: \nHOST: y: z".toList =
        .ok { r with headers := [("empty".toList, []), ("HOST".toList, "y: z".toList)] } ∧
      ({ r with headers := [("empty".toList, []), ("HOST".toList, "y: z".toList)] } :
        Request).header? "Host".toList = some "y: z".toList := by
  have hread :
      ((read "\n GET  /a \r\nHOST: x\n empty :\nhost:  y: z \r\n\nbody".toList).toOption.map
        fun r => (r.headers, r.line, r.header? "Host".toList)) =
      some ([("HOST".toList, "y: z".toList), ("empty".toList, [])], "GET /a HTTP/0.9".toList,
        some "y: z".toList) := by
    decide +kernel
  obtain ⟨r, hr, hfacts⟩ := Option.map_eq_some_iff.1 hread
  obtain ⟨hheaders, hline, hhost⟩ : _ ∧ _ ∧ _ := by simpa only [Prod.mk.injEq] using hfacts
  have hperm : List.Perm [("empty".toList, []), ("HOST".toList, "y: z".toList)] r.headers := by
    rw [hheaders]
    exact List.Perm.swap _ _ _
  have hback := readsBack_of_read (eq_ok_of_toOption hr) hperm
  refine ⟨r, eq_ok_of_toOption hr, hheaders, hback.read _ ?_, (hback.header? _).trans hhost⟩
  rw [hline]
  decide

end Request

end UrlRewrite
