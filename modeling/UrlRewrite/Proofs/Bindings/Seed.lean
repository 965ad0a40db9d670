import UrlRewrite.Request.Server

/-!
# The bindings at the beginning

What a request, a server and a moment bind is a list of server variables with values. A variable
that is listed more than once has its last value (`Bindings.server?_setServers`), and lookup tables
bind no server variables (`Bindings.server?_ofRequest`).

Only the request tells the query, so that a run begins with that of the URI
(`Bindings.server?_ofRequest_query`), and only it tells its first line
(`Bindings.server?_ofRequest_theRequest`). Only the server tells the name it goes by
(`Bindings.server?_ofRequest_serverName`).
-/

namespace UrlRewrite.Bindings

variable {b : Bindings}

theorem server?_setServer (b : Bindings) (v w : ServerVariable) (value : Text) :
    (b.setServer v value).server? w = if v = w then some value else b.server? w := by
  simp only [server?, setServer, get?_set, Key.server.injEq]

/-- The last value that a list gives to a variable. -/
def lastValue? (values : List (ServerVariable × Text)) (v : ServerVariable) : Option Text :=
  (values.reverse.find? fun entry => entry.1 = v).map (·.2)

theorem lastValue?_append (values more : List (ServerVariable × Text)) (v : ServerVariable) :
    lastValue? (values ++ more) v = (lastValue? more v).or (lastValue? values v) := by
  simp only [lastValue?, List.reverse_append, List.find?_append]
  cases more.reverse.find? fun entry => entry.1 = v <;> rfl

/-- A variable that is not listed has no value. -/
theorem lastValue?_eq_none {values : List (ServerVariable × Text)} {v : ServerVariable}
    (h : ∀ entry ∈ values, entry.1 ≠ v) : lastValue? values v = none := by
  rw [lastValue?, List.find?_eq_none.2 fun entry hentry => ?_, Option.map_none]
  simpa using h entry (List.mem_reverse.1 hentry)

/-- A moment tells nothing about variables of other categories. -/
theorem lastValue?_moment {v : ServerVariable} (hv : v.category ≠ .time) (now : Moment) :
    lastValue? now.serverVariables v = none := by
  refine lastValue?_eq_none fun entry hentry heq => hv ?_
  rw [← heq, Moment.category_of_mem hentry]

/-- A variable has the last value that is listed for it, or else the one it had. -/
theorem server?_setServers (b : Bindings) (values : List (ServerVariable × Text))
    (v : ServerVariable) :
    (b.setServers values).server? v = (lastValue? values v).or (b.server? v) := by
  induction values generalizing b with
  | nil => rfl
  | cons entry values ih =>
    have hrest : (b.setServers (entry :: values)).server? v =
        ((b.setServer entry.1 entry.2).setServers values).server? v := rfl
    -- the first entry counts only if none of the others is for the same variable
    rw [hrest, ih, server?_setServer, ← List.singleton_append, lastValue?_append, Option.or_assoc]
    congr 1
    by_cases hv : entry.1 = v <;> simp [lastValue?, hv]

theorem server?_addTable (b : Bindings) (table : Text) (rows : List (Text × Text))
    (v : ServerVariable) :
    (b.addTable table rows).server? v = b.server? v := by
  rw [addTable]
  induction rows generalizing b with
  | nil => rfl
  | cons row rows ih =>
    rw [List.foldl_cons, ih, server?, get?_set]
    exact if_neg (by simp)

/-- A server variable is bound at the beginning as the moment, the server or the request says, in
this order. -/
theorem server?_ofRequest (r : Request) (s : Server) (now : Moment)
    (tables : List (Text × List (Text × Text))) (v : ServerVariable) :
    (ofRequest r s now tables).server? v =
      (lastValue? now.serverVariables v).or
        ((lastValue? (s.serverVariables r) v).or (lastValue? r.serverVariables v)) := by
  have htables : (ofRequest r s now tables).server? v = (empty.seed r s now).server? v := by
    rw [ofRequest]
    generalize empty.seed r s now = b
    induction tables generalizing b with
    | nil => rfl
    | cons table tables ih => rw [List.foldl_cons, ih, server?_addTable]
  rw [htables, seed, server?_setServers, server?_setServers, server?_setServers]
  exact congrArg _ (congrArg _ Option.or_none)

/-- The query and the first line are bound as the request alone says. -/
theorem server?_ofRequest_of_request {v : ServerVariable} (hv : v = .queryString ∨ v = .theRequest)
    (r : Request) (s : Server) (now : Moment) (tables : List (Text × List (Text × Text))) :
    (ofRequest r s now tables).server? v = lastValue? r.serverVariables v := by
  have hmoment : lastValue? now.serverVariables v = none :=
    lastValue?_moment (by rcases hv with rfl | rfl <;> decide) now
  have hserver : lastValue? (s.serverVariables r) v = none := by
    rw [Server.serverVariables, lastValue?_append, lastValue?_append]
    rcases hv with rfl | rfl <;> cases s.admin <;> rfl
  rw [server?_ofRequest, hmoment, hserver, Option.none_or, Option.none_or]

/-- The query at the beginning is that of the request. -/
theorem server?_ofRequest_query (r : Request) (s : Server) (now : Moment)
    (tables : List (Text × List (Text × Text))) :
    (ofRequest r s now tables).server? .queryString = some r.query := by
  -- what the peer tells comes last and is not the query, and headers come before it
  rw [server?_ofRequest_of_request (.inl rfl), Request.serverVariables, lastValue?_append,
    lastValue?_append]
  cases r.peer <;> rfl

/-- The first line of the request at the beginning is its own. -/
theorem server?_ofRequest_theRequest (r : Request) (s : Server) (now : Moment)
    (tables : List (Text × List (Text × Text))) :
    (ofRequest r s now tables).server? .theRequest = some r.line := by
  rw [server?_ofRequest_of_request (.inr rfl), Request.serverVariables, lastValue?_append,
    lastValue?_append]
  cases r.peer <;> rfl

/-- A server goes by its name at the beginning, or else by the host that is asked for, or else by
its address. -/
theorem server?_ofRequest_serverName (r : Request) (s : Server) (now : Moment)
    (tables : List (Text × List (Text × Text))) :
    (ofRequest r s now tables).server? .serverName = some ((s.name.or r.host?).getD s.ip) := by
  have hmoment : lastValue? now.serverVariables .serverName = none :=
    lastValue?_moment (by decide) now
  have hserver :
      lastValue? (s.serverVariables r) .serverName = some ((s.name.or r.host?).getD s.ip) := by
    -- the mail address of its administrator comes behind the name, if it has one
    rw [Server.serverVariables, lastValue?_append, lastValue?_append]
    cases s.admin <;> rfl
  rw [server?_ofRequest, hmoment, hserver, Option.none_or, Option.some_or]

end UrlRewrite.Bindings
