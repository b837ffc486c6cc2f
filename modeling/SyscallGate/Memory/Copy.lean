import SyscallGate.Memory.Buffer
import SyscallGate.Memory.KernelString
import SyscallGate.Memory.UserMemory

/-!
# Copying between user memory and the kernel

- `Copy.inBytes` and `Copy.outBytes` check a range and move it in one access; an empty range needs
    none.
- `Copy.inString` copies a string up to a bound. It asks for no byte beyond the page that holds the
    end of the string: each access ends at the bound or at a page boundary, whichever comes first.

The loop of `Copy.inString` ends because every access takes at least one byte nearer to the bound
(`nextChunk_pos`).
-/

namespace SyscallGate.Copy

variable {μ : Type} [UserMemory μ]

/-! ## Byte ranges -/

/-- Copies a range in. It is checked as a whole first, and then asked for in one access. -/
def inBytes (src : UserAddr) (len : Nat) : Action μ MemoryCall Errno (List UInt8) := do
  let range ← .ofExcept (UserRange.check .read src len)
  if range.isEmpty then
    return []
  else
    let block ← UserMemory.fetch range
    return block.toList

/-- Copies bytes out, to a range that is checked as a whole first. If the check fails then nothing
is written. -/
def outBytes (bytes : List UInt8) (dst : UserAddr) : Action μ MemoryCall Errno Unit := do
  let range ← .ofExcept (UserRange.check .write dst bytes.length)
  if range.isEmpty then
    return ()
  else
    UserMemory.store bytes range

/-! ## Strings -/

/-- How many bytes to ask for next when `held` are there: up to the bound, and up to the end of the
page.

An access that stops at the end of its page does not touch the next one, which need not be there if
the string ends before. -/
def nextChunk (bound held : Nat) (cursor : UserAddr) : Checked Nat := do
  let missing ← Checked.sub bound held
  let inPage ← cursor.bytesToPageEnd
  return min missing inPage

/-- The size of the next access, which never underflows while the bound is not reached. -/
theorem nextChunk_eq {bound held : Nat} (cursor : UserAddr) (unfilled : held < bound) :
    nextChunk bound held cursor =
      .ok (min (bound - held) (pageSize - cursor.toNat % pageSize)) := by
  unfold nextChunk
  rw [Checked.sub_eq_ok (Nat.le_of_lt unfilled), cursor.bytesToPageEnd_eq]
  rfl

/-- As long as the bound is not reached, the next access takes at least one byte. -/
theorem nextChunk_pos {bound held chunk : Nat} {cursor : UserAddr}
    (unfilled : held < bound) (h : nextChunk bound held cursor = .ok chunk) : 0 < chunk := by
  have inPage := Nat.mod_lt cursor.toNat (show 0 < pageSize by decide)
  rw [nextChunk_eq cursor unfilled] at h
  cases h
  omega

/-- Appends the bytes from `cursor` on to the buffer, up to the first zero byte or until the buffer
holds `bound` bytes. The answer tells whether the zero byte was found.

The recursion is the loop over the accesses. Each of them is checked on its own, since where the
string ends is known only afterwards. The first refusal ends it, and what was gathered before is
dropped. -/
def gather (bound : Nat) (cursor : UserAddr) (buffer : Buffer) :
    Action μ MemoryCall Errno (Buffer × Bool) :=
  if unfilled : buffer.length < bound then
    match chosen : nextChunk bound buffer.length cursor with
    | .error cause => .stop cause
    | .ok chunk =>
      match checked : UserRange.check .read cursor chunk with
      | .error reason => .refuse reason
      | .ok range => do
        let block ← UserMemory.fetch range
        -- The string ends in this block, and bytes behind the zero are dropped.
        if 0 ∈ block.toList then
          let complete ← .ofChecked (buffer.append (block.toList.takeWhile (· ≠ 0)))
          return (complete, true)
        else
          match filled : buffer.append block.toList with
          | .error cause => .stop cause
          | .ok longer =>
            match cursor.add? chunk with
            | none => .refuse .efault
            | some next =>
              -- The buffer grew by a whole chunk, and no chunk is empty.
              have nearer : bound - longer.length < bound - buffer.length := by
                have pos := nextChunk_pos unfilled chosen
                have len := (UserRange.check_addr_len checked).2
                have grown := Buffer.length_of_append filled
                rw [Vector.length_toList] at grown
                omega
              gather bound next longer
  else
    return (buffer, false)
  termination_by bound - buffer.length

/-- Copies the string at `src` in, at most `bound` bytes of it.

The buffer is reserved for the bound and the closing zero before the first access. A copy that
reaches the bound without a zero is a string all the same, and is marked as cut. -/
def inString (c : Conditions) (src : UserAddr) (bound : Nat) :
    Action μ MemoryCall Errno KernelString :=
  if bound + 1 < wordLimit then do
    let reserved ← Buffer.reserve c (bound + 1)
    let (gathered, found) ← gather bound src reserved
    -- The bytes are closed with a zero of the kernel's own, and read back as a string, which fails
    -- if a zero was among them.
    let closed ← .ofChecked (gathered.append [0])
    match Terminated.ofBytesWithNul? closed.bytes with
    | some text => return ⟨text, !found⟩
    | none => .refuse .einval
  else
    .refuse .einval

end SyscallGate.Copy
