import RustWhois.Server.Requests

/-!
# Limits change no answer

The limits on requests are checked before a lookup, and a request that exceeds one is counted and
goes on.

* `Server.Alike`: the states of two services that differ in their limits;
* `Server.Alike.act`: a step of both;
* **`limits_of_run`**: they send the same responses.
-/

namespace RustWhois

open Rust

variable {governor : Governor}

/-- The states of two services that differ in their limits. -/
structure Server.Alike {governor' : Governor} (s : Server governor) (s' : Server governor') :
    Prop where
  lookups : s'.lookups = s.lookups
  requests : s'.requests = s.requests
  next : s'.next = s.next
  apps : ∀ i, Metrics.Agree (s.apps i).metrics (s'.apps i).metrics

namespace Server.Alike

variable {governor' : Governor} {s : Server governor} {s' : Server governor'}

theorem update (h : s.Alike s') {i : Nat} {app : AppState governor} {app' : AppState governor'}
    (happ : Metrics.Agree app.metrics app'.metrics) (j : Nat) :
    Metrics.Agree (Function.update s.apps i app j).metrics
      (Function.update s'.apps i app' j).metrics := by
  rw [Function.update_apply, Function.update_apply]
  split_ifs
  · exact happ
  · exact h.apps j

theorem conclude (h : s.Alike s') (r : Nat) (req : Request)
    (outcome : Except WhoisError WhoisResponse) :
    (s.conclude r req outcome).1 = (s'.conclude r req outcome).1 ∧
      Alike (s.conclude r req outcome).2 (s'.conclude r req outcome).2 := by
  have hrequests : Function.update s'.requests r none = Function.update s.requests r none := by
    rw [h.requests]
  cases outcome with
  | error e => exact ⟨rfl, h.lookups, hrequests, h.next, h.update (h.apps req.i)⟩
  | ok response =>
    exact ⟨rfl, h.lookups, hrequests, h.next, h.update ((h.apps req.i).countResponse response)⟩

theorem follow (h : s.Alike s') (r : Nat) (req : Request) (step : Option CallAnswer × Coalesced) :
    (s.follow r req step).1 = (s'.follow r req step).1 ∧
      Alike (s.follow r req step).2 (s'.follow r req step).2 := by
  obtain ⟨_ | answer, lookups⟩ := step
  · refine ⟨rfl, rfl, ?_, h.next, h.apps⟩
    show Function.update s'.requests r _ = Function.update s.requests r _
    rw [h.requests, h.lookups]
  · have hnow : s'.now = s.now := by rw [now, now, h.lookups]
    have hafter : Alike { s with lookups } { s' with lookups } := ⟨rfl, h.requests, h.next, h.apps⟩
    simp only [Server.follow, hnow]
    exact hafter.conclude r req _

theorem drop (h : s.Alike s') (r : Nat) (req : Request) : Alike (s.drop r req) (s'.drop r req) := by
  refine ⟨?_, ?_, h.next, h.apps⟩
  · rcases hhandle : req.handle with _ | c | w <;> simp only [Server.drop, hhandle, h.lookups]
  · show Function.update s'.requests r none = Function.update s.requests r none
    rw [h.requests]

theorem beginLookup {app : AppState governor} {app' : AppState governor'}
    (h : Metrics.Agree app.metrics app'.metrics) (now : Nat) (args : LookupArgs) :
    Metrics.Agree (app.beginLookup now args).metrics (app'.beginLookup now args).metrics :=
  (app.agree_beginLookup now args).symm.trans
    ((h.incrementRequests args.query).trans (app'.agree_beginLookup now args))

theorem arrive (h : s.Alike s') (parseDnsName : DnsNameParser) (i : Nat) (request : HttpRequest) :
    (s.arrive parseDnsName i request).1 = (s'.arrive parseDnsName i request).1 ∧
      Alike (s.arrive parseDnsName i request).2 (s'.arrive parseDnsName i request).2 := by
  have hnow : s'.now = s.now := by rw [now, now, h.lookups]
  have hnext : s'.next + 1 = s.next + 1 := by rw [h.next]
  rcases hnew : ValidatedQuery.new parseDnsName request.args.query with e | v
  · simp only [Server.arrive, HttpRequest.accept_of_error hnew]
    rw [h.next]
    exact ⟨rfl, h.lookups, h.requests, rfl, h.update ((h.apps i).incrementErrors _)⟩
  · have happs := h.update (i := i)
      (beginLookup (h.apps i) s.now { request.args with query := v.asStr })
    simp only [Server.arrive, HttpRequest.accept_of_ok hnew, hnow]
    rcases hagain : ValidatedQuery.new parseDnsName v.asStr with e | query
    · rw [h.next]
      exact ⟨rfl, h.lookups, h.requests, rfl, happs⟩
    dsimp only
    split_ifs with hbypass
    · refine ⟨rfl, h.lookups, ?_, hnext, happs⟩
      rw [h.requests, h.next]
    · rw [h.next, h.lookups]
      have hafter : Alike ⟨s.lookups, _, s.requests, s.next + 1⟩
          ⟨s.lookups, _, s'.requests, s.next + 1⟩ := ⟨rfl, h.requests, rfl, happs⟩
      exact hafter.follow _ _ _

/-- **A step of two services that differ in their limits.** -/
theorem act (h : s.Alike s') (parseDnsName : DnsNameParser) (action : ServerAction) :
    (s.act parseDnsName action).1 = (s'.act parseDnsName action).1 ∧
      Alike (s.act parseDnsName action).2 (s'.act parseDnsName action).2 := by
  have hnow : s'.now = s.now := by rw [now, now, h.lookups]
  cases action with
  | arrive i request => exact h.arrive parseDnsName i request
  | resume r step sole =>
    simp only [Server.act, h.requests, h.lookups]
    split
    · split
      · exact ⟨rfl, h⟩
      · exact h.follow r _ _
      · exact ⟨rfl, h⟩
    · exact ⟨rfl, h⟩
  | wake r fresh sole =>
    simp only [Server.act, h.requests, h.lookups]
    split
    · split
      · exact h.follow r _ _
      · exact ⟨rfl, h⟩
    · exact ⟨rfl, h⟩
  | returned r outcome =>
    simp only [Server.act, h.requests]
    split
    · split
      · exact h.conclude r _ _
      · exact ⟨rfl, h⟩
    · exact ⟨rfl, h⟩
  | timeout r =>
    simp only [Server.act, h.requests, hnow]
    split
    · next req _ =>
      split_ifs
      · have hdrop := h.drop r req
        exact ⟨rfl, hdrop.lookups, hdrop.requests, h.next,
          h.update ((h.apps req.i).incrementErrors "request_timeout")⟩
      · exact ⟨rfl, h⟩
    · exact ⟨rfl, h⟩
  | disconnect r =>
    simp only [Server.act, h.requests]
    split
    · exact ⟨rfl, h.drop r _⟩
    · exact ⟨rfl, h⟩
  | evict slot =>
    refine ⟨rfl, ?_, h.requests, h.next, h.apps⟩
    show (s'.lookups.act _).2 = (s.lookups.act _).2
    rw [h.lookups]

theorem tick (h : s.Alike s') (waited : Nat) : Alike (s.tick waited) (s'.tick waited) := by
  refine ⟨?_, h.requests, h.next, h.apps⟩
  show s'.lookups.tick waited = s.lookups.tick waited
  rw [h.lookups]

end Server.Alike

/-- **Limits change no answer.** Whatever the limits on requests are and however they count: on the same
events, the service sends the same responses to the same requests at the same steps, and the metrics
agree but for the warnings. -/
theorem limits_of_run (governor governor' : Governor) (parseDnsName : DnsNameParser)
    (moka : MokaCalls) (config : Config) (backed : Bool) (es : List ServerEvent) :
    let s : Server governor := .new moka config backed
    let s' : Server governor' := .new moka config backed
    ((serverMachine parseDnsName).run s es).map Machine.Step.out =
        ((serverMachine parseDnsName).run s' es).map Machine.Step.out ∧
      ∀ i, Metrics.Agree (((serverMachine parseDnsName).final s es).apps i).metrics
        (((serverMachine parseDnsName).final s' es).apps i).metrics := by
  intro s s'
  have hboth : ((serverMachine parseDnsName).run s es).map Machine.Step.out =
        ((serverMachine parseDnsName).run s' es).map Machine.Step.out ∧
      Server.Alike ((serverMachine parseDnsName).final s es)
        ((serverMachine parseDnsName).final s' es) :=
    Machine.lockstep (P := fun _ => True)
      (fun _ _ e h _ => (h.tick e.waited).act parseDnsName e.action)
      ⟨rfl, rfl, rfl, fun _ => .refl _⟩ fun _ _ => trivial
  exact ⟨hboth.1, hboth.2.apps⟩

end RustWhois
