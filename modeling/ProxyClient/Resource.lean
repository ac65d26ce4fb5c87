import ProxyClient.Memory.Reservation

/-! One exporter call, as `resource.rs` makes it: the body is read into a buffer that the
caller's reservation covers byte by byte.
-/

namespace ProxyClient

open Foundations Memory

/-- The body being read: its bytes and the capacity of their buffer. -/
structure BodyBuffer where
  bytes : List UInt8
  capacity : Nat
  fits : bytes.length ≤ capacity
  addressable : capacity ≤ isizeMax

/-- `String::from_utf8`, which keeps the buffer. -/
def BodyBuffer.fromUtf8 (buffer : BodyBuffer) : Except BoxError RustString :=
  if valid : ByteArray.IsValidUTF8 ⟨buffer.bytes.toArray⟩ then
    .ok {
      text := ⟨⟨buffer.bytes.toArray⟩, valid⟩
      capacity := buffer.capacity
      fits := buffer.fits
      addressable := buffer.addressable
    }
  else .error .utf8

/-- A text that was read keeps the buffer it was read into. -/
theorem BodyBuffer.fromUtf8_capacity {buffer : BodyBuffer} {body : RustString}
    (read : buffer.fromUtf8 = .ok body)
    : body.capacity = buffer.capacity := by
  unfold fromUtf8 at read
  split at read
  · obtain rfl := Except.ok.inj read
    rfl
  · cases read

/-- `Vec::extend_from_slice` into a buffer that has room. -/
def BodyBuffer.extend (buffer : BodyBuffer) (chunk : List UInt8) (capacity : Nat)
    (fits : buffer.bytes.length + chunk.length ≤ capacity) (addressable : capacity ≤ isizeMax)
    : BodyBuffer :=
  { bytes := buffer.bytes ++ chunk, capacity, fits := by simpa using fits, addressable }

/-- A length within the body limit did not saturate. -/
theorem saturatingAdd_eq {left right : Nat} (within : saturatingAdd left right ≤ maxBodySize)
    : saturatingAdd left right = left + right := by
  by_cases fits : left + right ≤ usizeMax
  · exact if_pos fits
  · rw [saturatingAdd, if_neg fits] at within
    exact absurd within (by decide)

def bodyTooLarge : BoxError := .text "resource response exceeds the 64 MiB limit"

/-- The loop of `fetch_resource`: each chunk is admitted, covered, allocated for, and only
then appended.
-/
def readChunks (buffer : BodyBuffer) (retained : MemoryReservation)
    : List (Except BoxError (List UInt8)) → Proc (Except BoxError BodyBuffer × MemoryReservation)
  | [] => do
      perform (.nextChunk buffer.capacity)
      return (.ok buffer, retained)
  | .error error :: _ => do
      perform (.nextChunk buffer.capacity)
      return (.error error, retained)
  | .ok chunk :: chunks => do
      perform (.nextChunk buffer.capacity)
      let nextLength := saturatingAdd buffer.bytes.length chunk.length
      if within : nextLength ≤ maxBodySize then
        if room : nextLength ≤ buffer.capacity then
          readChunks
            (buffer.extend chunk buffer.capacity (saturatingAdd_eq within ▸ room)
              buffer.addressable)
            retained chunks
        else
          let minimumGrowth := nextLength - buffer.capacity
          match ← retained.tryGrow minimumGrowth with
          | .error error => return (.error (.memoryBudget error), retained)
          | .ok retained =>
              match ← perform (.tryReserveExact (buffer.bytes.length + chunk.length)) with
              | .error error => return (.error error, retained)
              | .ok capacity =>
                  let actualGrowth := capacity.val - buffer.capacity
                  match ← retained.growBeyond actualGrowth minimumGrowth with
                  | .error error => return (.error (.memoryBudget error), retained)
                  | .ok retained =>
                      readChunks
                        (buffer.extend chunk capacity.val capacity.property.1
                          capacity.property.2)
                        retained chunks
      else return (.error bodyTooLarge, retained)

/-- `fetch_resource`. The reservation comes back as the last state of its `&mut`. -/
def fetchResource (url : String) (retained : MemoryReservation)
    : Proc (Except BoxError (UInt16 × RustString) × MemoryReservation) := do
  match ← perform (.get url) with
  | .error error => return (.error error, retained)
  | .ok response =>
      if response.contentLength.any (fun length => length > maxBodySize) then
        return (.error bodyTooLarge, retained)
      else
        let initialCapacity := min (response.contentLength.getD 0) maxBodySize
        match ← retained.tryGrow initialCapacity with
        | .error error => return (.error (.memoryBudget error), retained)
        | .ok retained =>
            let capacity ← perform (.withCapacity initialCapacity)
            match ← retained.growBeyond capacity.val initialCapacity with
            | .error error => return (.error (.memoryBudget error), retained)
            | .ok retained =>
                let empty : BodyBuffer :=
                  { bytes := [], capacity := capacity.val, fits := Nat.zero_le _,
                    addressable := capacity.property.2 }
                let (body, retained) ← readChunks empty retained response.chunks
                match body.bind BodyBuffer.fromUtf8 with
                | .error error => return (.error error, retained)
                | .ok body => return (.ok (response.status, body), retained)

/-- `"No such resource".to_owned()`, which allocates exactly. -/
def noSuchResource : RustString := ⟨"No such resource", 16, by decide, by decide⟩

/-- `call_resource`. The configuration is its allow-list of resources. -/
def callResource (resources : String → Option String) (uid : RustString) (resource : String)
    : Proc (Option BudgetedResponse) := do
  match ← tryReserve uid.capacity with
  | .error _ => return none
  | .ok retained =>
      match resources resource with
      | none =>
          match ← retained.tryGrow noSuchResource.len with
          | .ok retained =>
              return some (← BudgetedResponse.fromReserved uid 404 noSuchResource retained)
          | .error _ => return some (← BudgetedResponse.fromReserved uid 500 .new retained)
      | some url =>
          match ← fetchResource url retained with
          | (.ok (status, body), retained) =>
              return some (← BudgetedResponse.fromReserved uid status body retained)
          | (.error _, retained) =>
              let retained ← retained.shrinkTo uid.capacity
              return some (← BudgetedResponse.fromReserved uid 500 .new retained)

end ProxyClient
