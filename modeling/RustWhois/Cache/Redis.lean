import RustWhois.Cache
import RustWhois.Codec

/-!
# The Redis backend

`redis_cache.rs`: the shared tier of `cache.rs` in a Redis server, as JSON under a key prefix. Other
clients write keys of their own, the server drops keys, and commands or their answers are lost.

* `Redis`, `RedisCache`: the server and the backend;
* `redisMachine`: `backend_get` and `backend_set` on it;
* `Store`, `storeMachine`: what they mean, a map from keys to responses that expire;
* **`redis_of_run`**: the server behaves as the map, and as the backend of `cache.rs`.
-/

namespace RustWhois

open Rust

/-- The text layer of `serde_json`. -/
structure SerdeJson where
  toString : Json → Text
  fromStr : Text → Option Json
  /-- The error for a text that is no response. -/
  error : Text → Text

/-- What becomes of a command. -/
inductive Delivery
  /-- It is not run. -/
  | failed (msg : Text)
  /-- It is run, and its answer is lost. -/
  | lost (msg : Text)
  | answered

/-! ## The server -/

/-- A Redis server: the value of a key, and when it expires. -/
structure Redis where
  values : Text → Option (Text × Nat)

namespace Redis

variable (self : Redis)

def get (now : Nat) (key : Text) : Option Text :=
  ((self.values key).filter fun v => now < v.2).map Prod.fst

/-- `SETEX`. -/
def setEx (now : Nat) (key value : Text) (seconds : Nat) : Redis :=
  ⟨Function.update self.values key (some (value, now + fromSecs seconds))⟩

def del (key : Text) : Redis := ⟨Function.update self.values key none⟩

end Redis

/-! ## The backend -/

structure RedisCache where
  keyPrefix : Text

namespace RedisCache

/-- `RedisCache::new`, for a URL that is accepted. -/
def new : RedisCache := ⟨"whois:"⟩

/-- `with_key_prefix`. -/
def withKeyPrefix (keyPrefix : Text) (self : RedisCache) : RedisCache := { self with keyPrefix }

variable (serde : SerdeJson) (self : RedisCache)

/-- `key`. -/
def key (key : Text) : Text := self.keyPrefix ++ key

/-- What is read of a value. -/
def parse (json : Text) : Except Text WhoisResponse :=
  match (serde.fromStr json).bind WhoisResponse.deserialize with
  | some response => .ok response
  | none => .error (serde.error json)

/-- `get`. -/
def get (now : Nat) (key : Text) (delivery : Delivery) (redis : Redis) :
    Except Text (Option WhoisResponse) :=
  match delivery with
  | .failed msg => .error msg
  | .lost msg => .error msg
  | .answered => match redis.get now (self.key key) with
    | some json => (parse serde json).map some
    | none => .ok none

/-- `set`. -/
def set (now : Nat) (key : Text) (response : WhoisResponse) (ttl : Nat) (delivery : Delivery)
    (redis : Redis) : Except Text Unit × Redis :=
  let json := serde.toString response.serialize
  -- SETEX rejects a time of zero
  let seconds := max (ttl / fromSecs 1) 1
  match delivery with
  | .failed msg => (.error msg, redis)
  | .lost msg => (.error msg, redis.setEx now (self.key key) json seconds)
  | .answered => (.ok (), redis.setEx now (self.key key) json seconds)

end RedisCache

/-! ## Runs -/

inductive RedisAction
  /-- `backend_get` of an instance. -/
  | get (key : Text) (delivery : Delivery)
  /-- `backend_set` of an instance. -/
  | set (key : Text) (response : WhoisResponse) (delivery : Delivery)
  /-- The server drops a key. -/
  | evict (key : Text)
  /-- Another client writes a key. -/
  | write (key value : Text) (seconds : Nat)

/-- A step, taken `waited` after the last one. -/
structure RedisEvent where
  waited : Nat
  action : RedisAction

/-- A server, at a time. -/
structure RedisState where
  redis : Redis
  now : Nat

namespace RedisState

def new : RedisState := ⟨⟨fun _ => none⟩, 0⟩

variable (service : CacheService) (serde : SerdeJson) (backend : RedisCache) (s : RedisState)

/-- A step, at its time: a failed backend is a miss, and a store that fails is none. -/
def act : RedisAction → Option WhoisResponse × RedisState
  | .get key delivery => match backend.get serde s.now key delivery s.redis with
    | .ok hit => (hit, s)
    | .error _ => (none, s)
  | .set key response delivery => match service.backendTtl response with
    | none => (none, s)
    | some ttl =>
      (none, { s with redis := (backend.set serde s.now key response ttl delivery s.redis).2 })
  | .evict key => (none, { s with redis := s.redis.del key })
  | .write key value seconds => (none, { s with redis := s.redis.setEx s.now key value seconds })

end RedisState

theorem RedisState.now_act (service : CacheService) (serde : SerdeJson) (backend : RedisCache)
    (s : RedisState) (action : RedisAction) : (s.act service serde backend action).2.now = s.now := by
  cases action with
  | get key delivery =>
    simp only [act]
    split <;> rfl
  | set key response delivery =>
    simp only [act]
    split <;> rfl
  | _ => rfl

def redisMachine (service : CacheService) (serde : SerdeJson) (backend : RedisCache) :
    Machine RedisState RedisEvent (Option WhoisResponse) where
  next s e := { s with now := s.now + e.waited }.act service serde backend e.action

/-! ## What the backend means -/

/-- A map from keys to what was stored last. -/
structure Store where
  entries : Text → Option Stored
  now : Nat

namespace Store

def new : Store := ⟨fun _ => none, 0⟩

variable (service : CacheService) (backend : RedisCache) (s : Store)

/-- A response is got within its time, and is there until another one is stored or it is dropped. -/
def act : RedisAction → Option WhoisResponse × Store
  | .get key .answered =>
    (((s.entries key).filter fun x => s.now < x.storedAt + x.ttl).map (·.response), s)
  | .get _ _ => (none, s)
  | .set _ _ (.failed _) => (none, s)
  | .set key response _ => match service.backendTtl response with
    | none => (none, s)
    | some ttl => (none,
      { s with entries := Function.update s.entries key (some ⟨key, response, ttl, s.now⟩) })
  | .evict name =>
    (none, { s with entries := fun key => if backend.key key = name then none else s.entries key })
  | .write _ _ _ => (none, s)

end Store

def storeMachine (service : CacheService) (backend : RedisCache) :
    Machine Store RedisEvent (Option WhoisResponse) where
  next s e := { s with now := s.now + e.waited }.act service backend e.action

/-- The response is read back from what `serde_json` writes. -/
def Readable (serde : SerdeJson) (response : WhoisResponse) : Prop :=
  response.Fits ∧ serde.fromStr (serde.toString response.serialize) = some response.serialize

/-- Responses are readable, and other clients write no key under the prefix. -/
def RedisEvent.Proper (serde : SerdeJson) (backend : RedisCache) (e : RedisEvent) : Prop :=
  match e.action with
  | .set _ response _ => Readable serde response
  | .write key _ _ => ¬ backend.keyPrefix <+: key
  | _ => True

/-- The server holds the JSON of what is stored. -/
structure Represents (serde : SerdeJson) (backend : RedisCache) (s : RedisState) (t : Store) :
    Prop where
  now : t.now = s.now
  values : ∀ key, s.redis.values (backend.key key) =
    (t.entries key).map fun x => (serde.toString x.response.serialize, x.storedAt + x.ttl)
  readable : ∀ key x, t.entries key = some x → Readable serde x.response

section Steps

variable {serde : SerdeJson} {backend : RedisCache} {service : CacheService} {s : RedisState}
  {t : Store} {response : WhoisResponse}

theorem RedisCache.key_inj {key key' : Text} : backend.key key = backend.key key' ↔ key = key' := by
  rw [RedisCache.key, RedisCache.key, List.append_cancel_left_eq]

theorem RedisCache.parse_of_readable (h : Readable serde response) :
    RedisCache.parse serde (serde.toString response.serialize) = .ok response := by
  have hread : (serde.fromStr (serde.toString response.serialize)).bind
      WhoisResponse.deserialize = some response := by
    rw [h.2, Option.bind_some, WhoisResponse.deserialize_serialize h.1]
  rw [parse, hread]

theorem CacheService.backendTtl_build {config : Config} {ttl : Nat}
    (h : (CacheService.build config none).backendTtl response = some ttl) :
    ∃ n, 0 < n ∧ ttl = fromSecs n := by
  have hsome : ∀ n, (some (fromSecs n)).filter (· ≠ 0) = some ttl → 0 < n ∧ ttl = fromSecs n := by
    intro n hn
    obtain ⟨heq, hne⟩ := Option.filter_eq_some_iff.mp hn
    obtain rfl : fromSecs n = ttl := Option.some.inj heq
    refine ⟨Nat.pos_of_ne_zero ?_, rfl⟩
    rintro rfl
    exact absurd hne (by decide)
  rw [backendTtl] at h
  cases hstatus : response.lookupStatus with
  | found =>
    rw [hstatus] at h
    exact ⟨_, hsome _ h⟩
  | notFound =>
    rw [hstatus] at h
    exact ⟨_, hsome _ h⟩
  | rateLimited =>
    rw [hstatus] at h
    cases h

theorem seconds_fromSecs {n : Nat} (h : 0 < n) : max (fromSecs n / fromSecs 1) 1 = n := by
  have hdiv : fromSecs n / fromSecs 1 = n := by
    simp [fromSecs]
  omega

theorem Represents.setEx (h : Represents serde backend s t) (key : Text)
    (hr : Readable serde response) (n : Nat) :
    Represents serde backend
      { s with redis := s.redis.setEx s.now (backend.key key) (serde.toString response.serialize) n }
      { t with entries := Function.update t.entries key (some ⟨key, response, fromSecs n, t.now⟩) } := by
  refine ⟨h.now, fun key' => ?_, fun key' x hx => ?_⟩
  · show Function.update s.redis.values _ _ _ = Option.map _ (Function.update t.entries _ _ _)
    by_cases hkey : key' = key
    · rw [hkey, Function.update_self, Function.update_self, h.now]
      rfl
    · have hne : backend.key key' ≠ backend.key key := fun heq => hkey (RedisCache.key_inj.mp heq)
      rw [Function.update_of_ne hne, Function.update_of_ne hkey, h.values key']
  · rcases of_update_some hx with ⟨-, rfl⟩ | ⟨-, hx⟩
    · exact hr
    · exact h.readable key' x hx

theorem Represents.get (h : Represents serde backend s t) (key : Text) :
    backend.get serde s.now key .answered s.redis =
      .ok (((t.entries key).filter fun x => t.now < x.storedAt + x.ttl).map (·.response)) := by
  rw [RedisCache.get, Redis.get, h.values key, h.now]
  cases hx : t.entries key with
  | none => rfl
  | some x =>
    rw [Option.map_some, Option.filter_some, Option.filter_some]
    by_cases hlive : s.now < x.storedAt + x.ttl
    · rw [if_pos (decide_eq_true hlive), if_pos (decide_eq_true hlive), Option.map_some]
      dsimp only
      rw [RedisCache.parse_of_readable (h.readable key x hx)]
      rfl
    · rw [if_neg (by simpa using hlive), if_neg (by simpa using hlive)]
      rfl

/-- **A step of the server is a step of the map.** -/
theorem Represents.act {config : Config} (h : Represents serde backend s t) {e : RedisEvent}
    (hproper : e.Proper serde backend) :
    (s.act (.build config none) serde backend e.action).1 =
        (t.act (.build config none) backend e.action).1 ∧
      Represents serde backend (s.act (.build config none) serde backend e.action).2
        (t.act (.build config none) backend e.action).2 := by
  obtain ⟨waited, action⟩ := e
  cases action with
  | get key delivery =>
    cases delivery with
    | answered =>
      simp only [RedisState.act, Store.act, h.get key]
      exact ⟨trivial, h⟩
    | _ => exact ⟨rfl, h⟩
  | set key response delivery =>
    simp only [RedisState.act]
    cases httl : (CacheService.build config none).backendTtl response with
    | none => cases delivery <;> simpa only [Store.act, httl] using ⟨trivial, h⟩
    | some ttl =>
      obtain ⟨n, hn, rfl⟩ := CacheService.backendTtl_build httl
      have hset := h.setEx key hproper n
      cases delivery <;> simp only [Store.act, httl, RedisCache.set, seconds_fromSecs hn]
      · exact ⟨trivial, h⟩
      · exact ⟨trivial, hset⟩
      · exact ⟨trivial, hset⟩
  | evict name =>
    refine ⟨rfl, h.now, fun key => ?_, fun key x hx => ?_⟩
    · show Function.update s.redis.values name none (backend.key key) =
        Option.map _ (if backend.key key = name then none else t.entries key)
      rw [Function.update_apply]
      split_ifs
      · rfl
      · exact h.values key
    · have hx' : (if backend.key key = name then none else t.entries key) = some x := hx
      split_ifs at hx'
      exact h.readable key x hx'
  | write name value seconds =>
    refine ⟨rfl, h.now, fun key => ?_, h.readable⟩
    have hne : backend.key key ≠ name := by
      rintro rfl
      exact hproper (List.prefix_append _ _)
    show Function.update s.redis.values name _ (backend.key key) = _
    rw [Function.update_of_ne hne, h.values key]
    rfl

theorem Represents.tick (h : Represents serde backend s t) (waited : Nat) :
    Represents serde backend { s with now := s.now + waited } { t with now := t.now + waited } :=
  ⟨congrArg (· + waited) h.now, h.values, h.readable⟩

end Steps

/-! ## Runs of the server -/

abbrev RedisStep : Type := Machine.Step RedisState RedisEvent (Option WhoisResponse)

/-- What a step hands the server. -/
def RedisStep.handed (service : CacheService) (x : RedisStep) : Option Stored :=
  match x.event.action with
  | .set _ _ (.failed _) => none
  | .set key response _ =>
    (service.backendTtl response).map fun ttl => ⟨key, response, ttl, x.post.now⟩
  | _ => none

/-- The map holds what the steps handed the server, under its keys. -/
def HandedBy (service : CacheService) (past : List RedisStep) (t : Store) : Prop :=
  ∀ key y, t.entries key = some y →
    y.key = key ∧ y ∈ past.filterMap (RedisStep.handed service)

theorem HandedBy.act {service : CacheService} {past : List RedisStep} {t : Store}
    (h : HandedBy service past t) (backend : RedisCache) {x : RedisStep} (hnow : x.post.now = t.now) :
    HandedBy service (past ++ [x]) (t.act service backend x.event.action).2 := by
  have hold : HandedBy service (past ++ [x]) t := by
    intro key y hy
    obtain ⟨hkey, hmem⟩ := h key y hy
    rw [List.filterMap_append]
    exact ⟨hkey, List.mem_append_left _ hmem⟩
  -- the entry that the step makes is the one it hands
  have hset : ∀ key response ttl, x.handed service = some ⟨key, response, ttl, t.now⟩ →
      HandedBy service (past ++ [x])
        { t with entries := Function.update t.entries key (some ⟨key, response, ttl, t.now⟩) } := by
    intro key response ttl hx key' y hy
    rcases of_update_some hy with ⟨rfl, rfl⟩ | ⟨-, hy⟩
    · rw [List.filterMap_append, List.filterMap_cons_some hx]
      exact ⟨rfl, List.mem_append_right _ List.mem_cons_self⟩
    · exact hold key' y hy
  obtain ⟨pre, ⟨waited, action⟩, out, post⟩ := x
  replace hnow : post.now = t.now := hnow
  cases action with
  | get key delivery => cases delivery <;> exact hold
  | set key response delivery =>
    cases httl : service.backendTtl response with
    | none =>
      cases delivery <;> simp only [Store.act, httl] <;> exact hold
    | some ttl =>
      cases delivery <;> simp only [Store.act, httl]
      · exact hold
      · exact hset key response ttl (by simp only [RedisStep.handed, httl, Option.map_some, hnow])
      · exact hset key response ttl (by simp only [RedisStep.handed, httl, Option.map_some, hnow])
  | evict name =>
    intro key y hy
    have hy' : (if backend.key key = name then none else t.entries key) = some y := hy
    split_ifs at hy'
    exact hold key y hy'
  | write name value seconds => exact hold

theorem HandedBy.answer {service : CacheService} {past : List RedisStep} {t : Store}
    (h : HandedBy service past t) (backend : RedisCache) (key : Text) (delivery : Delivery) :
    ∃ answer, (t.act service backend (.get key delivery)).1 =
      { service with
        backend := some (past.filterMap (RedisStep.handed service)) }.backendGet t.now key answer := by
  have hmiss : ∃ answer, none =
      { service with
        backend := some (past.filterMap (RedisStep.handed service)) }.backendGet t.now key answer :=
    ⟨.failed [], rfl⟩
  cases delivery with
  | answered =>
    simp only [Store.act]
    cases hy : t.entries key with
    | none => exact hmiss
    | some y =>
      rw [Option.filter_some]
      split_ifs with hlive
      · obtain ⟨hkey, hmem⟩ := h key y hy
        obtain ⟨i, hi⟩ := List.getElem?_of_mem hmem
        refine ⟨.stored i, ?_⟩
        have hlive' : t.now < y.storedAt + y.ttl := of_decide_eq_true hlive
        simp [CacheService.backendGet, Backend.get, hi, hkey, hlive', Option.filter_some]
      · exact hmiss
  | _ => exact hmiss

/-- **The Redis backend is the backend of the cache.** In every run of instances on one server, with
other clients on keys without the prefix, with keys that are dropped and with commands or answers that
are lost: every response is the one that the map from keys to responses gives at that step, and it is
one that the backend of `cache.rs` may give. -/
theorem redis_of_run (config : Config) (serde : SerdeJson) (backend : RedisCache)
    (es : List RedisEvent) (hproper : ∀ e ∈ es, e.Proper serde backend) :
    let service := CacheService.build config none
    let xs := (redisMachine service serde backend).run .new es
    xs.map Machine.Step.out = ((storeMachine service backend).run .new es).map Machine.Step.out ∧
      ∀ past x rest, xs = past ++ x :: rest → ∀ key delivery, x.event.action = .get key delivery →
        ∃ answer, x.out = { service with
          backend := some (past.filterMap (RedisStep.handed service)) }.backendGet x.post.now key
            answer := by
  intro service xs
  have hstep : ∀ s t e, Represents serde backend s t → e.Proper serde backend →
      ((redisMachine service serde backend).next s e).1 = ((storeMachine service backend).next t e).1 ∧
        Represents serde backend ((redisMachine service serde backend).next s e).2
          ((storeMachine service backend).next t e).2 :=
    fun s t e h he => (h.tick e.waited).act (e := e) he
  have hnew : Represents serde backend .new .new := ⟨rfl, fun _ => rfl, by rintro _ _ ⟨⟩⟩
  refine ⟨(Machine.lockstep hstep hnew hproper).1, ?_⟩
  intro past x rest hrun key delivery haction
  obtain ⟨es', e, rfl, rfl⟩ := (redisMachine service serde backend).run_eq_append_cons hrun
  have hmem : ∀ y ∈ xs, y.event.Proper serde backend :=
    fun y hy => hproper _ ((redisMachine service serde backend).event_mem_of_mem_run hy)
  have hheld : ∃ t, Represents serde backend
        ((redisMachine service serde backend).final .new es') t ∧
      HandedBy service ((redisMachine service serde backend).run .new es') t := by
    refine Machine.history_induction
      (H := fun past s => ∃ t, Represents serde backend s t ∧ HandedBy service past t)
      (C := fun _ e => e.Proper serde backend) (fun past s e h hC => ?_)
      ⟨.new, hnew, by rintro _ _ ⟨⟩⟩ fun y hy => hmem y (by rw [hrun]; exact List.mem_append_left _ hy)
    obtain ⟨t, hrep, hhanded⟩ := h
    refine ⟨_, (hstep s t e hrep hC).2, ?_⟩
    have htick : HandedBy service past { t with now := t.now + e.waited } := hhanded
    refine htick.act backend (x := (redisMachine service serde backend).step s e) ?_
    exact (RedisState.now_act _ _ _ _ _).trans (congrArg (· + e.waited) hrep.now.symm)
  obtain ⟨t, hrep, hhanded⟩ := hheld
  have htick : HandedBy service _ { t with now := t.now + e.waited } := hhanded
  have hx : (redisMachine service serde backend).step
      ((redisMachine service serde backend).final .new es') e ∈ xs := by
    rw [hrun]
    exact List.mem_append_right _ List.mem_cons_self
  have hout := (hstep _ t e hrep (hmem _ hx)).1
  have hnow : ((redisMachine service serde backend).next
      ((redisMachine service serde backend).final .new es') e).2.now = t.now + e.waited :=
    (RedisState.now_act _ _ _ _ _).trans (congrArg (· + e.waited) hrep.now.symm)
  obtain ⟨answer, hanswer⟩ := htick.answer backend key delivery
  refine ⟨answer, ?_⟩
  rw [Machine.step_out, Machine.step_post, hout, hnow, ← hanswer]
  show (Store.act service backend _ e.action).1 = _
  rw [show e.action = .get key delivery from haction]

/-- The text layer on one response and its text. -/
def SerdeJson.at (response : WhoisResponse) (json : Text) : SerdeJson where
  toString _ := json
  fromStr text := if text = json then some response.serialize else none
  error _ := "expected value at line 1 column 1"

theorem SerdeJson.readable_at {response : WhoisResponse} (h : response.Fits) (json : Text) :
    Readable (.at response json) response :=
  ⟨h, if_pos rfl⟩

/-- The text of `responseWithStatus .found`. -/
def foundJson : Text :=
  "\x7b\"domain\":\"a.com\",\"whois_server\":\"whois.a\",\"raw_data\":\"raw\",".toList ++
    "\"parsed_data\":null,\"lookup_status\":\"found\",\"cached\":false,\"query_time_ms\":1\x7d".toList

/-- It is stored, and got twice, within its hour and after it; another client writes a key. -/
theorem redis_of_run_hour :
    ((redisMachine (.build createTestConfig none) (.at (responseWithStatus .found) foundJson) .new).run
      .new [⟨0, .set "a.com" (responseWithStatus .found) (.lost "timed out")⟩,
        ⟨5, .write "app:a.com" "1" 60⟩, ⟨5, .get "a.com" .answered⟩,
        ⟨fromSecs 3600, .get "a.com" .answered⟩]).map Machine.Step.out =
      [none, none, some (responseWithStatus .found), none] := by
  refine (redis_of_run createTestConfig (.at (responseWithStatus .found) foundJson) .new _ ?_).1.trans
    (by decide +kernel)
  have hreadable : Readable (.at (responseWithStatus .found) foundJson) (responseWithStatus .found) :=
    SerdeJson.readable_at ⟨show 1 < 2 ^ 64 by omega, by rintro p ⟨⟩⟩ foundJson
  have hforeign : ¬ RedisCache.new.keyPrefix <+: "app:a.com".toList := by decide
  intro e he
  simp only [List.mem_cons, List.not_mem_nil, or_false] at he
  rcases he with rfl | rfl | rfl | rfl
  · exact hreadable
  · exact hforeign
  · trivial
  · trivial

end RustWhois
