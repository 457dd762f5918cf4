import RustWhois.Data

/-!
# The buffer pool

`buffer_pool.rs`: buffers are taken from a bounded queue and returned to it on drop.

* `PooledBuffer.take`, `PooledBuffer.drop`;
* `Buffer.fill`: what a read leaves in a buffer.
-/

namespace RustWhois

/-- A `Vec<u8>`. -/
structure Buffer where
  bytes : List UInt8
  capacity : Nat
  deriving DecidableEq

namespace Buffer

/-- `vec![0; n]`. -/
def zeroed (n : Nat) : Buffer := ⟨List.replicate n 0, n⟩

/-- `Vec::resize` with zeroes, within the capacity. -/
def resize (self : Buffer) (n : Nat) : Buffer :=
  { self with bytes := self.bytes.take n ++ List.replicate (n - self.bytes.length) 0 }

/-- `Vec::truncate`. -/
def truncate (self : Buffer) (n : Nat) : Buffer := { self with bytes := self.bytes.take n }

/-- A read of `chunk` overwrites the front of the buffer. -/
def fill (self : Buffer) (chunk : List UInt8) : Buffer :=
  { self with bytes := chunk ++ self.bytes.drop chunk.length }

theorem take_fill (self : Buffer) (chunk : List UInt8) :
    (self.fill chunk).bytes.take chunk.length = chunk :=
  List.take_left

end Buffer

/-- `ArrayQueue<Vec<u8>>`, the oldest buffer first. -/
structure BufferPool where
  buffers : List Buffer
  capacity : Nat
  deriving DecidableEq

namespace PooledBuffer

/-- `PooledBuffer::new`: a recycled buffer if there is one, its contents left as they are. -/
def take (pool : BufferPool) (bufferSize : Nat) : Buffer × BufferPool :=
  match pool.buffers with
  | buf :: rest =>
    (if bufferSize ≤ buf.capacity then buf.resize bufferSize else .zeroed bufferSize,
      { pool with buffers := rest })
  | [] => (.zeroed bufferSize, pool)

/-- `Drop`: the buffer goes back unless the queue is full. -/
def drop (pool : BufferPool) (bufferSize : Nat) (buffer : Buffer) : BufferPool :=
  let buffer :=
    if bufferSize ≤ buffer.capacity then
      let cut := buffer.truncate bufferSize
      if cut.bytes.length < bufferSize then cut.resize bufferSize else cut
    else buffer
  if pool.buffers.length < pool.capacity then { pool with buffers := pool.buffers ++ [buffer] }
  else pool

end PooledBuffer

end RustWhois
