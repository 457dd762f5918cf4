import RustWhois.Whois.Net

/-!
# Reading an answer

What `read_whois_response` makes of the bytes a server sends, however they arrive and whatever buffer
they are read into.

* `Network.Delivers`: the reads of a stream, without error or timeout;
* **`readLoop_of_delivers`**: the loop collects the stream, as far as the limit allows;
* `Answer`: the result for the bytes of a stream;
* **`readWhoisResponse_answer`**: it depends on the bytes and the limit only.
-/

namespace RustWhois

open Rust

/-- From operation `t` on, the chunks are read into buffers of the given size, and then the end of the
stream; nothing fails and no deadline passes. -/
def Network.Delivers (net : Network) (size : Nat) : Nat → List (List UInt8) → Prop
  | t, [] => net.elapsed t = false ∧ net.read (t + 1) size = .ready []
  | t, chunk :: chunks =>
    net.elapsed t = false ∧ net.read (t + 1) size = .ready chunk ∧
      chunk ≠ [] ∧ chunk.length ≤ size ∧ net.Delivers size (t + 2) chunks

/-! ## Buffers -/

theorem Buffer.length_fill {buffer : Buffer} {chunk : List UInt8}
    (h : chunk.length ≤ buffer.bytes.length) :
    (buffer.fill chunk).bytes.length = buffer.bytes.length := by
  simp only [fill, List.length_append, List.length_drop]
  omega

theorem PooledBuffer.length_take (pool : BufferPool) (size : Nat) :
    (PooledBuffer.take pool size).1.bytes.length = size := by
  have hnew : (Buffer.zeroed size).bytes.length = size := List.length_replicate
  unfold PooledBuffer.take
  cases pool.buffers with
  | nil => exact hnew
  | cons buf rest =>
    dsimp only
    by_cases hcap : size ≤ buf.capacity
    · rw [if_pos hcap]
      simp only [Buffer.resize, List.length_append, List.length_take, List.length_replicate]
      omega
    · rw [if_neg hcap]
      exact hnew

/-! ## The loop -/

theorem readLoop_step {env : Env} {buffer : Buffer} {w : World} {bytes : List UInt8}
    (htime : env.net.elapsed w.tick = false)
    (hread : env.net.read (w.tick + 1) buffer.bytes.length = .ready bytes) (n : Nat)
    (response : List UInt8) :
    readLoop env (n + 1) buffer response w =
      (let chunk := bytes.take buffer.bytes.length
      if chunk.isEmpty then pure (.ok response, buffer)
      else if env.config.maxResponseSize < (response ++ chunk).length then
        pure (.error .responseTooLarge, buffer.fill chunk)
      else readLoop env n (buffer.fill chunk) (response ++ chunk) : Whois _)
        { w with tick := w.tick + 2 } := by
  rw [readLoop, bind_nextTick, htime, if_neg Bool.false_ne_true, bind_nextTick, hread]
  simp only [Buffer.take_fill]

/-- **The loop collects the stream**, unless it outgrows the limit. The induction is on the chunks;
the response so far is within the limit, and the bound on the reads is not exhausted. -/
theorem readLoop_of_delivers {env : Env} {chunks : List (List UInt8)} :
    ∀ {n : Nat} {buffer : Buffer} {response : List UInt8} {w : World},
      env.net.Delivers buffer.bytes.length w.tick chunks →
      response.length ≤ env.config.maxResponseSize →
      env.config.maxResponseSize < n + response.length →
      ∃ b w', readLoop env n buffer response w =
        (.ok (if env.config.maxResponseSize < (response ++ chunks.flatten).length then
          .error .responseTooLarge else .ok (response ++ chunks.flatten), b), w') := by
  induction chunks with
  | nil =>
    intro n buffer response w hnet hle hlt
    obtain ⟨htime, hread⟩ := hnet
    obtain ⟨n, rfl⟩ : ∃ m, n = m + 1 := Nat.exists_eq_succ_of_ne_zero (by omega)
    rw [readLoop_step htime hread, List.flatten_nil, List.append_nil,
      if_neg (Nat.not_lt.mpr hle), List.take_nil]
    exact ⟨buffer, _, rfl⟩
  | cons chunk chunks ih =>
    intro n buffer response w hnet hle hlt
    obtain ⟨htime, hread, hne, hlen, hrest⟩ := hnet
    obtain ⟨n, rfl⟩ : ∃ m, n = m + 1 := Nat.exists_eq_succ_of_ne_zero (by omega)
    have hpos : 0 < chunk.length := List.length_pos_iff.mpr hne
    rw [readLoop_step htime hread, List.take_of_length_le hlen]
    dsimp only
    rw [if_neg (by simpa using hne), List.flatten_cons, ← List.append_assoc]
    by_cases hlarge : env.config.maxResponseSize < (response ++ chunk).length
    · -- what is still to come only makes it longer
      have hall : env.config.maxResponseSize < (response ++ chunk ++ chunks.flatten).length := by
        rw [List.length_append]
        omega
      rw [if_pos hlarge, if_pos hall]
      exact ⟨_, _, rfl⟩
    · rw [if_neg hlarge]
      refine ih ?_ (by omega) (by rw [List.length_append]; omega)
      rw [Buffer.length_fill hlen]
      exact hrest

/-! ## The answer -/

/-- The result for the bytes of a stream under a limit: too large, or the text with these bytes, or
no text. -/
def Answer (limit : Nat) (bytes : List UInt8) (r : Except WhoisError Text) : Prop :=
  if limit < bytes.length then r = .error .responseTooLarge
  else (∀ s, asBytes s = bytes → r = .ok s) ∧
    ((∀ s, asBytes s ≠ bytes) → r = .error .invalidUtf8)

theorem answer_decodeResponse {limit : Nat} {bytes : List UInt8} (h : ¬ limit < bytes.length) :
    Answer limit bytes (decodeResponse bytes) := by
  rw [Answer, if_neg h]
  constructor
  · intro s hs
    rw [decodeResponse, ← hs, fromUtf8_asBytes]
  · intro hno
    cases hutf : fromUtf8 bytes with
    | none => rw [decodeResponse, hutf]
    | some s => exact absurd (asBytes_of_fromUtf8 hutf) (hno s)

/-- **There is one answer to every stream.** -/
theorem Answer.unique {limit : Nat} {bytes : List UInt8} {r r' : Except WhoisError Text}
    (h : Answer limit bytes r) (h' : Answer limit bytes r') : r = r' := by
  unfold Answer at h h'
  by_cases hlarge : limit < bytes.length
  · rw [if_pos hlarge] at h h'
    rw [h, h']
  rw [if_neg hlarge] at h h'
  by_cases hs : ∃ s, asBytes s = bytes
  · obtain ⟨s, hs⟩ := hs
    rw [h.1 s hs, h'.1 s hs]
  · have hno : ∀ s, asBytes s ≠ bytes := fun s heq => hs ⟨s, heq⟩
    rw [h.2 hno, h'.2 hno]

theorem readWhoisResponse_of_delivers {env : Env} {w : World} {chunks : List (List UInt8)}
    (h : env.net.Delivers env.config.bufferSize w.tick chunks) :
    Answer env.config.maxResponseSize chunks.flatten (readWhoisResponse env w).1 := by
  have hsize := PooledBuffer.length_take w.pool env.config.bufferSize
  rw [← hsize] at h
  unfold readWhoisResponse
  rw [Eff.bind_of_ok (Eff.reads_apply _ _)]
  rcases htake : PooledBuffer.take w.pool env.config.bufferSize with ⟨buffer, pool⟩
  rw [htake] at h
  have hfuel : env.config.maxResponseSize <
      env.config.maxResponseSize + 1 + ([] : List UInt8).length := Nat.lt_succ_self _
  obtain ⟨b, w', hloop⟩ := readLoop_of_delivers (w := { w with pool }) h (Nat.zero_le _) hfuel
  dsimp only
  rw [Eff.bind_of_ok (Eff.modify_apply _ _), Eff.bind_of_ok hloop,
    Eff.bind_of_ok (Eff.modify_apply _ _), Eff.lift_apply, List.nil_append]
  by_cases hlarge : env.config.maxResponseSize < chunks.flatten.length
  · rw [if_pos hlarge, Answer, if_pos hlarge]
    rfl
  · rw [if_neg hlarge]
    exact answer_decodeResponse hlarge

/-- **An answer depends only on the bytes that were sent**, and on the limit: neither the reads they
came in nor the buffers of the pool matter. -/
theorem readWhoisResponse_answer (env : Env) (w : World) (chunks : List (List UInt8))
    (h : env.net.Delivers env.config.bufferSize w.tick chunks) :
    Answer env.config.maxResponseSize chunks.flatten (readWhoisResponse env w).1 ∧
    ∀ (env' : Env) (w' : World) (chunks' : List (List UInt8)),
      env'.config.maxResponseSize = env.config.maxResponseSize →
      env'.net.Delivers env'.config.bufferSize w'.tick chunks' →
      chunks'.flatten = chunks.flatten →
      (readWhoisResponse env' w').1 = (readWhoisResponse env w).1 := by
  have hanswer := readWhoisResponse_of_delivers h
  refine ⟨hanswer, fun env' w' chunks' hlimit hnet hbytes => ?_⟩
  have hanswer' := readWhoisResponse_of_delivers hnet
  rw [hlimit, hbytes] at hanswer'
  exact hanswer'.unique hanswer

/-- A character that arrives in two reads. -/
def Env.straddling : Env :=
  { Env.playing [] with
    net := { Network.playing [] with
      read := fun t _ => .ready (if t = 1 then [0xc3] else if t = 3 then [0xa9] else []) } }

/-- A service with a used buffer that is larger than the configured ones. -/
def World.recycled : World := { World.knowing [] with pool := ⟨[⟨[0x41, 0x42, 0x43], 512⟩], 10⟩ }

/-- It is put together, and nothing of the buffer shows. -/
theorem readWhoisResponse_straddling : Answer 4096 [0xc3, 0xa9]
    (readWhoisResponse Env.straddling World.recycled).1 :=
  (readWhoisResponse_answer Env.straddling World.recycled [[0xc3], [0xa9]]
    ⟨rfl, rfl, by decide, by decide, rfl, rfl, by decide, by decide, rfl, rfl⟩).1

end RustWhois
