import RustWhois.Std.Census
import RustWhois.Std.Spends
import RustWhois.Whois.SelfHealing

/-!
# Discoveries

When the lookups in flight discover a server: once for a lookup that finds no entry, and once for a
query to a known server that fails.

* `Paid`: a move that ends a discovery, or a query that fails, and what the lookup then owes;
* `discovers`, `opensCold`, `registryFails`: the steps that are counted;
* **`discoveries_of_run`**: every discovery has its reason;
* `Settled`: the lookups that started with an entry ask its server;
* **`settled_of_run`**: an entry stays while no query of its TLD fails.
-/

namespace RustWhois

open Rust

namespace LookupPhase

/-- A discovery is awaited, or comes next. -/
def owes : LookupPhase → Bool
  | discovering | purging _ | rediscovering _ => true
  | _ => false

/-- A discovery ends in the move. -/
def searchEnds : LookupPhase → LookupMove → Bool
  | discovering, .discovered _ => true
  | rediscovering _, .discovered _ => true
  | _, _ => false

/-- The first query fails in the move. -/
def queryFails : LookupPhase → LookupMove → Bool
  | querying _, .answered false => true
  | _, _ => false

end LookupPhase

/-- A discovery that ends was owed, and what is owed after a move was owed before, or the query failed
in it. -/
def Paid (phase : LookupPhase) (move : LookupMove) (phase' : Option LookupPhase) : Prop :=
  (phase.searchEnds move).toNat + (phase'.any LookupPhase.owes).toNat ≤
    phase.owes.toNat + (phase.queryFails move).toNat

namespace Lookups

theorem paid_resume (s : Lookups) {c : Nat} {tld : Text} {phase : LookupPhase}
    (running : s.calls c = some ⟨tld, phase⟩) (move : LookupMove) : ∃ phase' : Option LookupPhase,
      (s.resume c tld phase move).2.calls =
        Function.update s.calls c (phase'.map fun phase => ⟨tld, phase⟩) ∧
      (s.resume c tld phase move).2.next = s.next ∧ Paid phase move phase' := by
  have hidle : s.calls = Function.update s.calls c (some ⟨tld, phase⟩) := by
    rw [← running, Function.update_eq_self]
  cases move with
  | discovered found =>
    cases phase with
    | discovering =>
      cases found with
      | none => exact ⟨none, rfl, rfl, Nat.le_refl _⟩
      | some server => exact ⟨some (.entering server), rfl, rfl, Nat.le_refl _⟩
    | rediscovering failed =>
      cases found with
      | none => exact ⟨none, rfl, rfl, Nat.le_refl _⟩
      | some server =>
        simp only [resume]
        split_ifs
        · exact ⟨some (.retrying failed server), rfl, rfl, Nat.le_refl _⟩
        · exact ⟨none, rfl, rfl, Nat.le_refl _⟩
    | _ => cases found <;> exact ⟨some _, hidle, rfl, Nat.le_refl _⟩
  | enter =>
    cases phase with
    | entering server =>
      exact ⟨some (.querying server), congrArg (Function.update · c _) (calls_enter s tld server),
        next_enter s tld server, Nat.le_refl _⟩
    | _ => exact ⟨some _, hidle, rfl, Nat.le_refl _⟩
  | answered ok =>
    cases ok with
    | true =>
      cases phase with
      | querying server => exact ⟨none, rfl, rfl, Nat.le_refl _⟩
      | retrying failed server => exact ⟨some (.storing failed server), rfl, rfl, Nat.le_refl _⟩
      | _ => exact ⟨some _, hidle, rfl, Nat.le_refl _⟩
    | false =>
      cases phase with
      | querying server => exact ⟨some (.purging server), rfl, rfl, Nat.le_refl _⟩
      | retrying failed server => exact ⟨none, rfl, rfl, Nat.le_refl _⟩
      | _ => exact ⟨some _, hidle, rfl, Nat.le_refl _⟩
  | purge =>
    cases phase with
    | purging failed => exact ⟨some (.rediscovering failed), rfl, rfl, Nat.le_refl _⟩
    | _ => exact ⟨some _, hidle, rfl, Nat.le_refl _⟩
  | store =>
    cases phase with
    | storing failed server => exact ⟨none, rfl, rfl, Nat.le_refl _⟩
    | _ => exact ⟨some _, hidle, rfl, Nat.le_refl _⟩
  | cancel => cases phase <;> exact ⟨none, rfl, rfl, Nat.zero_le _⟩

/-! ## Counting discoveries -/

variable (tld : Text)

/-- A discovery for the TLD ends in the step. -/
def discovers (s : Lookups) : LookupAction → Bool
  | .resume c move => (s.calls c).any fun call => call.tld = tld ∧ call.phase.searchEnds move
  | _ => false

/-- A lookup of the TLD starts without an entry. -/
def opensCold (s : Lookups) : LookupAction → Bool
  | .start tld' => tld' = tld ∧ s.tldServers tld = none
  | _ => false

/-- The first query of a lookup of the TLD fails. -/
def registryFails (s : Lookups) : LookupAction → Bool
  | .resume c move => (s.calls c).any fun call => call.tld = tld ∧ call.phase.queryFails move
  | _ => false

/-- The lookups of the TLD in flight that have still to discover. -/
def debt (s : Lookups) : Nat :=
  census (fun call => call.tld = tld ∧ call.phase.owes) s.calls s.next

/-- A lookup that starts owes a discovery if it finds no entry. -/
theorem debt_start (s : Lookups) (tld' : Text) :
    (s.start tld').debt tld = s.debt tld + (s.opensCold tld (.start tld')).toNat := by
  obtain ⟨phase, hcalls, howes⟩ : ∃ phase : LookupPhase,
      (s.start tld').calls = Function.update s.calls s.next (some ⟨tld', phase⟩) ∧
        phase.owes = (s.tldServers tld').isNone := by
    unfold start
    cases s.tldServers tld' with
    | none => exact ⟨.discovering, rfl, rfl⟩
    | some server => exact ⟨.querying server, rfl, rfl⟩
  have hnext : (s.start tld').next = s.next + 1 := rfl
  rw [debt, hcalls, hnext, census_succ, Function.update_self,
    census_congr fun k hk => by rw [Function.update_of_ne (Nat.ne_of_lt hk)], ← debt]
  congr 1
  by_cases htld : tld' = tld
  · subst htld
    cases hentry : s.tldServers tld' <;> simp [opensCold, howes, hentry]
  · simp [opensCold, htld]

theorem debt_act {s : Lookups} (fresh : ∀ c, s.next ≤ c → s.calls c = none) (action : LookupAction) :
    (s.discovers tld action).toNat + (s.act action).2.debt tld ≤
      s.debt tld + (s.opensCold tld action).toNat + (s.registryFails tld action).toNat := by
  cases action with
  | start tld' =>
    show 0 + (s.start tld').debt tld ≤ _
    rw [debt_start]
    omega
  | resume c move =>
    cases running : s.calls c with
    | none =>
      simp only [act, discovers, running, Option.any_none, Bool.toNat_false]
      omega
    | some call =>
      obtain ⟨tld', phase⟩ := call
      obtain ⟨phase', hcalls, hnext, hpaid⟩ := s.paid_resume running move
      have hlt : c < s.next := by
        by_contra hle
        rw [fresh c (Nat.le_of_not_lt hle)] at running
        cases running
      have hcensus := census_update (p := fun call : LookupCall => call.tld = tld ∧ call.phase.owes)
        (f := s.calls) hlt (phase'.map fun phase => ⟨tld', phase⟩)
      rw [act_of_running running, debt, hcalls, hnext, debt]
      have hone : ∀ b : Bool, (if b then 1 else 0) = b.toNat := by decide
      have hafter : (phase'.map fun phase => (⟨tld', phase⟩ : LookupCall)).any
          (fun call => call.tld = tld ∧ call.phase.owes) =
            decide (tld' = tld ∧ phase'.any LookupPhase.owes) := by
        cases phase' <;> simp
      simp only [discovers, opensCold, registryFails, running, Option.any_some]
      rw [running, hone, hone, Option.any_some, hafter] at hcensus
      unfold Paid at hpaid
      by_cases htld : tld' = tld
      · simp only [htld, true_and, Bool.decide_eq_true] at hcensus ⊢
        omega
      · simp only [htld, false_and, decide_false, Bool.toNat_false] at hcensus ⊢
        omega

end Lookups

theorem paid_run (servers : Text → Option Text) (es : List LookupAction) (tld : Text) :
    (lookupsMachine.run (.knowing servers) es).countP (fun x => x.pre.discovers tld x.event) +
        (lookupsMachine.final (.knowing servers) es).debt tld ≤
      (lookupsMachine.run (.knowing servers) es).countP (fun x => x.pre.opensCold tld x.event) +
        (lookupsMachine.run (.knowing servers) es).countP
          fun x => x.pre.registryFails tld x.event := by
  induction es using List.reverseRecOn with
  | nil => exact Nat.le_refl 0
  | append_singleton es action ih =>
    have hstep := Lookups.debt_act tld (history_run servers es).fresh action
    have hone : ∀ b : Bool, (if b then 1 else 0) = b.toNat := by decide
    rw [Machine.run_concat, Machine.final_append, countP_concat, countP_concat, countP_concat, hone,
      hone, hone]
    simp only [Machine.step_pre, Machine.step_event]
    show _ + _ + (((lookupsMachine.final (.knowing servers) es).act action).2.debt tld) ≤ _
    omega

/-- **Every discovery has its reason.** In every run of lookups in flight, there are for a TLD at most as
many discoveries as lookups that start without an entry and first queries that fail: a known server
that answers is not discovered again. -/
theorem discoveries_of_run (servers : Text → Option Text) (es : List LookupAction) (tld : Text) :
    let xs := lookupsMachine.run (.knowing servers) es
    xs.countP (fun x => x.pre.discovers tld x.event) ≤
      xs.countP (fun x => x.pre.opensCold tld x.event) +
        xs.countP fun x => x.pre.registryFails tld x.event := by
  intro xs
  exact Nat.le_trans (Nat.le_add_right _ _) (paid_run servers es tld)

/-! ## Entries that stay -/

namespace Lookups

/-- The TLD has an entry; no query of its lookups has failed, and those with a number from `n` on ask
its server. -/
structure Settled (tld server : Text) (n : Nat) (s : Lookups) : Prop where
  entry : s.tldServers tld = some server
  sound : ∀ c phase, s.calls c = some ⟨tld, phase⟩ → phase.failed = none
  warm : ∀ c phase, s.calls c = some ⟨tld, phase⟩ → n ≤ c → phase = .querying server

variable {tld server : Text} {n : Nat} {s s' : Lookups} {action : LookupAction}

/-- A lookup whose queries do not fail comes to no purge, and one that asks a server asks no other. -/
theorem sound_resume {c : Nat} {tld : Text} {phase phase' : LookupPhase} {move : LookupMove}
    (running : s.calls c = some ⟨tld, phase⟩) (sound : phase.failed = none)
    (quiet : ∀ server', s.failing (.resume c move) ≠ some (c, tld, server'))
    (h : (s.resume c tld phase move).2.calls c = some ⟨tld, phase'⟩) :
    phase'.failed = none ∧ ((phase.asked).isSome → phase' = phase) := by
  have hgoOn : ∀ {t : Lookups} {call : Option LookupCall},
      (t.goOn c call).calls c = some ⟨tld, phase'⟩ → call = some ⟨tld, phase'⟩ :=
    fun h => (calls_goOn _ _ _).symm.trans h
  have hidle : s.calls c = some ⟨tld, phase'⟩ → phase' = phase := by
    intro h
    rw [running] at h
    cases h
    rfl
  cases phase with
  | discovering =>
    refine ⟨?_, by rintro ⟨⟩⟩
    cases move with
    | discovered found =>
      cases found <;> cases hgoOn h
      rfl
    | cancel => cases hgoOn h
    | answered ok =>
      rw [hidle (by cases ok <;> exact h)]
      rfl
    | _ =>
      rw [hidle h]
      rfl
  | entering server =>
    refine ⟨?_, by rintro ⟨⟩⟩
    cases move with
    | discovered found =>
      rw [hidle (by cases found <;> exact h)]
      rfl
    | enter =>
      cases hgoOn h
      rfl
    | answered ok =>
      rw [hidle (by cases ok <;> exact h)]
      rfl
    | cancel => cases hgoOn h
    | _ =>
      rw [hidle h]
      rfl
  | querying server =>
    have hsame : phase' = .querying server := by
      cases move with
      | discovered found => exact hidle (by cases found <;> exact h)
      | answered ok =>
        cases ok with
        | true => cases hgoOn h
        | false => exact absurd (by simp [failing, running, LookupPhase.asked]) (quiet server)
      | cancel => cases hgoOn h
      | _ => exact hidle h
    rw [hsame]
    exact ⟨rfl, fun _ => rfl⟩
  | _ => cases sound

theorem Settled.act (h : Settled tld server n s)
    (hquiet : ∀ c server', s.failing action ≠ some (c, tld, server')) :
    Settled tld server n (s.act action).2 := by
  have hentry : (s.act action).2.tldServers tld = some server := by
    by_contra hne
    obtain ⟨c, move, phase, -, running, hwhy⟩ :=
      (acts_act s action).changes fun heq => hne (heq.trans h.entry)
    have hsound := h.sound c phase running
    rcases hwhy with hnone | ⟨failed, -, rfl⟩ | ⟨failed, new, -, rfl, -⟩
    · rw [h.entry] at hnone
      cases hnone
    · cases hsound
    · cases hsound
  have hcalls : ∀ c phase, (s.act action).2.calls c = some ⟨tld, phase⟩ →
      phase.failed = none ∧ (n ≤ c → phase = .querying server) := by
    intro c phase hrun
    cases action with
    | start tld' =>
      rcases of_update_some hrun with ⟨-, hnew⟩ | ⟨-, hrun⟩
      · obtain ⟨rfl, rfl⟩ := LookupCall.mk.inj hnew
        rw [h.entry]
        exact ⟨rfl, fun _ => rfl⟩
      · exact ⟨h.sound c phase hrun, h.warm c phase hrun⟩
    | resume c' move =>
      cases running : s.calls c' with
      | none =>
        simp only [Lookups.act, running] at hrun
        exact ⟨h.sound c phase hrun, h.warm c phase hrun⟩
      | some call =>
        obtain ⟨tld', phase₀⟩ := call
        rw [act_of_running running] at hrun
        by_cases hc : c = c'
        · subst hc
          obtain ⟨phase', hcalls, -, -⟩ := s.paid_resume running move
          obtain rfl : tld' = tld := by
            rw [hcalls, Function.update_self] at hrun
            obtain ⟨_, -, heq⟩ := Option.map_eq_some_iff.mp hrun
            exact congrArg LookupCall.tld heq
          obtain ⟨hsound, hsame⟩ :=
            sound_resume running (h.sound c phase₀ running) (fun server' => hquiet c server') hrun
          refine ⟨hsound, fun hle => ?_⟩
          have hwarm := h.warm c phase₀ running hle
          rw [hsame (by rw [hwarm]; rfl), hwarm]
        · obtain ⟨phase', hcalls, -, -⟩ := s.paid_resume running move
          rw [hcalls, Function.update_of_ne hc] at hrun
          exact ⟨h.sound c phase hrun, h.warm c phase hrun⟩
  exact ⟨hentry, fun c phase hrun => (hcalls c phase hrun).1, fun c phase hrun => (hcalls c phase hrun).2⟩

end Lookups

/-- **An entry stays while no query of its TLD fails.** Once there is an entry for a TLD, in every run
in which no query of that TLD fails, whatever becomes of other TLDs: the entry does not change, and the
lookups that start from then on ask its server, without a discovery, and return with it. -/
theorem settled_of_run (servers : Text → Option Text) (es : List LookupAction) (tld server : Text)
    (past rest : List LookupStep) (x : LookupStep)
    (hrun : lookupsMachine.run (.knowing servers) es = past ++ x :: rest)
    (hquiet : ∀ y ∈ past ++ x :: rest, ∀ c server', ¬ Lookups.QueryFailed c tld server' y)
    (hentry : x.pre.tldServers tld = some server) :
    ∀ y ∈ x :: rest, y.post.tldServers tld = some server ∧ ∀ c move phase,
      y.event = .resume c move → y.pre.calls c = some ⟨tld, phase⟩ → x.pre.next ≤ c →
        phase = .querying server ∧ ∀ result, y.out = some result → result = some server := by
  obtain ⟨es₁, es₂, rfl, rfl, hrest⟩ := lookupsMachine.run_eq_append hrun
  have hhistory := history_run servers es₁
  have hx : x.pre = lookupsMachine.final (.knowing servers) es₁ := by
    cases es₂ with
    | nil => cases hrest
    | cons e es₂ =>
      rw [Machine.run_cons] at hrest
      rw [(List.cons.inj hrest).1]
      rfl
  have hsettled : Lookups.Settled tld server x.pre.next x.pre := by
    rw [hx] at hentry ⊢
    refine ⟨hentry, fun c phase running => ?_, fun c phase running hle => ?_⟩
    · by_contra hfailed
      obtain ⟨server', hserver'⟩ := Option.ne_none_iff_exists'.mp hfailed
      obtain ⟨y, hy, hfail⟩ := (hhistory.failed_iff c _ running tld server').mpr ⟨rfl, hserver'⟩
      exact hquiet y (List.mem_append_left _ hy) c server' hfail
    · rw [hhistory.fresh c hle] at running
      cases running
  rw [hrest, ← hx]
  refine Machine.run_induction (I := Lookups.Settled tld server x.pre.next)
    (C := fun s action => ∀ c server', s.failing action ≠ some (c, tld, server'))
    (fun s action h hC => ⟨h.act hC, (h.act hC).entry, ?_⟩) hsettled fun y hy => ?_
  · rw [hx, ← hrest] at hy
    exact hquiet y (List.mem_append_right _ hy)
  · rintro c move phase rfl running hle
    replace running : s.calls c = some ⟨tld, phase⟩ := running
    obtain rfl := h.warm c phase running hle
    refine ⟨rfl, fun result hout => ?_⟩
    have hmove : (s.resume c tld (.querying server) move).1 = some result := by
      rw [← Lookups.act_of_running running]
      exact hout
    cases move with
    | discovered found => cases found <;> cases hmove
    | answered ok =>
      cases ok with
      | true => exact (Option.some.inj hmove).symm
      | false => cases hmove
    | _ => cases hmove

/-- A lookup finds a server, and the next one asks it. -/
def warmUp : List LookupAction :=
  [.start "com", .resume 0 (.discovered (some "whois.a")), .resume 0 .enter,
    .resume 0 (.answered true)]

theorem settled_of_run_next :
    (lookupsMachine.final (.knowing fun _ => none)
      (warmUp ++ [.start "com", .resume 1 (.answered true)])).tldServers "com" = some "whois.a" := by
  have hquiet : ∀ y ∈ lookupsMachine.run (.knowing fun _ => none)
      (warmUp ++ [.start "com", .resume 1 (.answered true)]), y.pre.failing y.event = none := by
    decide +kernel
  rw [Machine.run_append] at hquiet
  refine (settled_of_run (fun _ => none) (warmUp ++ [.start "com", .resume 1 (.answered true)]) "com"
    "whois.a" _ _ _ (lookupsMachine.run_append _ _ _) (fun y hy c server' hfail => ?_)
    (by decide +kernel) _ (List.mem_cons_of_mem _ List.mem_cons_self)).1
  rw [Lookups.QueryFailed, hquiet y hy] at hfail
  cases hfail

end RustWhois
