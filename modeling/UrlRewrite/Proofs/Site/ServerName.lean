import UrlRewrite.Proofs.Run.Renderings
import UrlRewrite.Proofs.Run.Uri

/-!
# The name of the server

Two things are told of a request, a name that the configuration gives to the scope that answers, and
the server variable with the name of the server. The variable is the server's own name, if it has
one, and only else the one that the configuration tells.

Whatever it is, all of the run shows it (`Run.Shows`). So the name that is told with the answer of a
request is the one that it has been evaluated with exactly if the server has no other one
(`Site.evaluate_shows_serverName`).
-/

namespace UrlRewrite.Site

variable {site : Site} {now : Moment} {r : Request} {e : Evaluation}

/-- The site on another server. -/
def onServer (site : Site) (s : Server) : Site := { site with server := s }

/-- The name that is told with an answer is the one that the configuration tells. -/
theorem serverName?_of_evaluate (h : site.evaluate now r = .ok e) :
    e.serverName = site.serverName? r := by
  rw [evaluate] at h
  split at h
  · cases h
  · rw [← Except.ok.inj h]

/-- At the beginning, the variable is the own name of the server, or else the one that the
configuration tells. -/
theorem server?_bindings_serverName (now : Moment) {name : Text}
    (hname : site.serverName? r = some name) :
    (site.bindings r now).server? .serverName = some (site.server.name.getD name) := by
  have hnamed : (site.namedServer r).name = some (site.server.name.getD name) := by
    rw [namedServer, hname]
    cases site.server.name <;> rfl
  rw [bindings, Bindings.server?_ofRequest_serverName, hnamed]
  rfl

/-- A run from the bindings of a request shows the name of the server that it begins with. -/
theorem shows_serverName {name : Text}
    (hname : (site.bindings r now).server? .serverName = some name) :
    Run.Shows .serverName name (site.bindings r now) (site.history now r)
    (site.finalBindings now r) :=
  (site.scope r).shows r site.maxIterations (by decide) hname

/-- **The name of the server.** If a name is told with the answer of a request, the run has shown
the own name of the server instead, if it has one. So the run has shown the name that is told
exactly if the server has no other one. -/
theorem evaluate_shows_serverName (site : Site) (now : Moment) (r : Request)
    (e : Evaluation) (told : Text) (h : site.evaluate now r = .ok e)
    (htold : e.serverName = some told) :
    Run.Shows .serverName (site.server.name.getD told) (site.bindings r now) (site.history now r)
        (site.finalBindings now r) ∧
      (Run.Shows .serverName told (site.bindings r now) (site.history now r)
        (site.finalBindings now r) ↔
        ∀ own, site.server.name = some own → own = told) := by
  have hfirst := server?_bindings_serverName now ((serverName?_of_evaluate h).symm.trans htold)
  refine ⟨shows_serverName hfirst, fun hshows own hown => ?_, fun hown => shows_serverName ?_⟩
  · -- a run begins with one name, so that it does not show two
    rw [hshows.first, hown] at hfirst
    exact (Option.some.inj hfirst).symm
  · rw [hfirst]
    cases hname : site.server.name with
    | none => rfl
    | some own => exact congrArg some (hown own hname)

/-- A configuration with a name, on a server that has another one. -/
theorem exists_named :
    ∃ site e,
      read
        ("ServerName main.example.com\nRewriteEngine on\n" ++
          "RewriteRule ^ /%\x7bSERVER_NAME\x7d").toList = .ok site ∧
      (site.onServer { name := some "front.example.com".toList }).evaluate ⟨2024, 3, 9, 7, 5, 1⟩
        { method := "GET".toList, uri := "/a".toList } = .ok e ∧
      e.serverName = some "main.example.com".toList ∧
      e.outcome.rewrite = .uri "/front.example.com".toList := by
  have hcomputed :
      ((read
        ("ServerName main.example.com\nRewriteEngine on\n" ++
          "RewriteRule ^ /%\x7bSERVER_NAME\x7d").toList).toOption.bind
        fun site =>
        ((site.onServer { name := some "front.example.com".toList }).evaluate ⟨2024, 3, 9, 7, 5, 1⟩
          { method := "GET".toList, uri := "/a".toList }).toOption.map fun e =>
          (e.serverName, e.outcome.rewrite)) =
      some (some "main.example.com".toList, .uri "/front.example.com".toList) := by
    decide +kernel
  obtain ⟨site, hread, hrest⟩ := Option.bind_eq_some_iff.1 hcomputed
  obtain ⟨e, he, hfacts⟩ := Option.map_eq_some_iff.1 hrest
  obtain ⟨hname, hrewrite⟩ := Prod.mk.inj hfacts
  exact ⟨site, e, eq_ok_of_toOption hread, eq_ok_of_toOption he, hname, hrewrite⟩

/-- The name that the configuration tells is told, and the run shows the other one. -/
theorem evaluate_shows_serverName_front :
    ∃ site e,
      read
        ("ServerName main.example.com\nRewriteEngine on\n" ++
          "RewriteRule ^ /%\x7bSERVER_NAME\x7d").toList = .ok site ∧
      (site.onServer { name := some "front.example.com".toList }).evaluate ⟨2024, 3, 9, 7, 5, 1⟩
        { method := "GET".toList, uri := "/a".toList } = .ok e ∧
      e.serverName = some "main.example.com".toList ∧
      e.outcome.rewrite = .uri "/front.example.com".toList ∧
      Run.Shows .serverName "front.example.com".toList
        ((site.onServer { name := some "front.example.com".toList }).bindings
          { method := "GET".toList, uri := "/a".toList } ⟨2024, 3, 9, 7, 5, 1⟩)
        ((site.onServer { name := some "front.example.com".toList }).history ⟨2024, 3, 9, 7, 5, 1⟩
          { method := "GET".toList, uri := "/a".toList })
        ((site.onServer { name := some "front.example.com".toList }).finalBindings
          ⟨2024, 3, 9, 7, 5, 1⟩ { method := "GET".toList, uri := "/a".toList }) := by
  obtain ⟨site, e, hread, he, hname, hrewrite⟩ := exists_named
  obtain ⟨hshows, -⟩ :=
    evaluate_shows_serverName (site.onServer { name := some "front.example.com".toList }) _ _ e _
      he hname
  exact ⟨site, e, hread, he, hname, hrewrite, hshows⟩

/-- The name that is told need not be the one that a request has been evaluated with. -/
theorem not_shows_told :
    ¬ ∀ (site : Site) (now : Moment) (r : Request) (e : Evaluation) (told : Text),
      site.evaluate now r = .ok e → e.serverName = some told →
      Run.Shows .serverName told (site.bindings r now) (site.history now r)
        (site.finalBindings now r) := by
  intro hall
  obtain ⟨site, e, -, he, hname, -⟩ := exists_named
  have hfirst := (hall _ _ _ e _ he hname).first
  rw [server?_bindings_serverName _ ((serverName?_of_evaluate he).symm.trans hname)] at hfirst
  have hsame : "front.example.com".toList = "main.example.com".toList := Option.some.inj hfirst
  revert hsame
  decide

end UrlRewrite.Site
