import SoundBoard.Fat.Directory

/-!
# Files as byte streams

A read of any number of bytes from any position, as long as both lie inside a file whose links
the library follows, returns the bytes that the format says and moves the position behind them.
-/

namespace SoundBoard.Fat

open SoundBoard.Lib

variable {image : Nat → Bytes} {geometry vol : VolumeInfo} {l : Layout} {first size n p : Nat}
  {info : FatFileInfo} {st : ReadState}

/-! ## Copies -/

/-- A copy of nothing. -/
theorem copyAt_none (dst : Bytes) (start : Nat) (src : Bytes) : copyAt dst start src 0 = dst := by
  funext i
  exact copyAt_outside _ _ _ _ _ (by omega)

/-- Two copies one behind the other. -/
theorem copyAt_append (dst : Bytes) (start : Nat) (src : Bytes) (m k : Nat) :
    copyAt (copyAt dst start src m) (start + m) (drop src m) k = copyAt dst start src (m + k) := by
  funext i
  by_cases before : i < start
  · rw [copyAt_outside _ _ _ _ _ (by omega), copyAt_outside _ _ _ _ _ (by omega),
      copyAt_outside _ _ _ _ _ (by omega)]
  · by_cases low : i < start + m
    · rw [copyAt_outside _ _ _ _ _ (by omega), copyAt_inside _ _ _ _ _ (by omega) low,
        copyAt_inside _ _ _ _ _ (by omega) (by omega)]
    · by_cases high : i < start + m + k
      · rw [copyAt_inside _ _ _ _ _ (by omega) high, copyAt_inside _ _ _ _ _ (by omega) (by omega),
          drop_apply]
        congr 1
        omega
      · rw [copyAt_outside _ _ _ _ _ (by omega), copyAt_outside _ _ _ _ _ (by omega),
          copyAt_outside _ _ _ _ _ (by omega)]

/-! ## Clusters -/

/-- The bytes from the start of a cluster on. -/
def clusterByte (image : Nat → Bytes) (geometry : VolumeInfo) (cluster : Nat) : Bytes := fun o =>
  image ((clusterSecter geometry cluster + o / 512) % 4294967296) (o % 512)

/-- In a cluster of a file, they are bytes of the file. -/
theorem Reaches.fileByte {j cluster o : Nat} (file : l.WellFormed image first size)
    (needed : j * l.clusterBytes < size) (reaches : Reaches image geometry l first size j cluster)
    (inside : o < l.clusterBytes) :
    clusterByte image geometry cluster o =
      l.fileByte image first (j * l.clusterBytes + o) := by
  have within := (file.fits j needed).2
  have row : o / 512 < l.perCluster := by
    rw [Layout.clusterBytes] at inside
    omega
  have bytes : j * l.clusterBytes = 512 * (j * l.perCluster) := by
    rw [Layout.clusterBytes]
    ring
  have block : (j * l.clusterBytes + o) / 512 = j * l.perCluster + o / 512 := by
    rw [bytes, Nat.mul_add_div (by decide)]
  have rest : (j * l.clusterBytes + o) % 512 = o % 512 := by
    rw [bytes, Nat.mul_add_mod]
  have quotient : (j * l.perCluster + o / 512) / l.perCluster = j := by
    rw [Nat.mul_comm, Nat.mul_add_div file.positive, Nat.div_eq_of_lt row, Nat.add_zero]
  have column : (j * l.perCluster + o / 512) % l.perCluster = o / 512 := by
    rw [Nat.mul_comm, Nat.mul_add_mod, Nat.mod_eq_of_lt row]
  rw [clusterByte, Layout.fileByte, block, rest, Layout.blockSecter, quotient, column,
    reaches.secter, Nat.mod_eq_of_lt (by omega)]

/-- What a pass over a cluster takes: up to its end, or to the end of the request. -/
def taken (n secters : Nat) (st : ReadState) : Nat :=
  min (n - st.nReadCount) (512 * secters - st.pos)

/-- The state behind a pass that begins at an offset of a cluster. -/
def passed (image : Nat → Bytes) (geometry : VolumeInfo) (cluster n secters offset : Nat)
    (st : ReadState) (vol : VolumeInfo) : ReadState :=
  { st with
    vol
    pos := if taken n secters st = 0 then st.pos else 0
    pBuffer := copyAt st.pBuffer st.nReadCount
      (drop (clusterByte image geometry cluster) offset) (taken n secters st)
    nReadCount := st.nReadCount + taken n secters st }

/-- A pass that takes nothing. -/
theorem passed_none (cluster offset : Nat) {secters : Nat} (nothing : taken n secters st = 0) :
    passed image geometry cluster n secters offset st st.vol = st := by
  rw [passed, nothing, copyAt_none, if_pos rfl, Nat.add_zero]

/-- The sector in the cache, as bytes of its cluster. -/
theorem drop_clusterByte (cluster s : Nat) {pos i : Nat} (inside : pos + i < 512) :
    drop (image ((clusterSecter geometry cluster + s) % 4294967296)) pos i =
      drop (clusterByte image geometry cluster) (512 * s + pos) i := by
  have row : (512 * s + pos + i) / 512 = s := by omega
  have column : (512 * s + pos + i) % 512 = pos + i := by omega
  rw [drop_apply, drop_apply, clusterByte, row, column]

/-- The state behind a copy from one sector. -/
def copied (image : Nat → Bytes) (geometry : VolumeInfo) (cluster n offset : Nat) (st : ReadState)
    (vol : VolumeInfo) : ReadState :=
  let count := min (512 - st.pos) (n - st.nReadCount)
  { st with
    vol
    pos := 0
    pBuffer := copyAt st.pBuffer st.nReadCount
      (drop (clusterByte image geometry cluster) offset) count
    nReadCount := st.nReadCount + count }

/-- A copy from one sector and a pass over the others are a pass over all of them. -/
theorem passed_copied (cluster s secters : Nat) (near : st.pos < 512) (more : st.nReadCount < n)
    (vol vol' : VolumeInfo) :
    passed image geometry cluster n secters (512 * (s + 1))
        (copied image geometry cluster n (512 * s + st.pos) st vol') vol =
      passed image geometry cluster n (secters + 1) (512 * s + st.pos) st vol := by
  obtain ⟨count, countEq⟩ : ∃ c, c = min (512 - st.pos) (n - st.nReadCount) := ⟨_, rfl⟩
  have some : taken n (secters + 1) st ≠ 0 := by
    rw [taken]
    omega
  have parts : taken n (secters + 1) st =
      count + min (n - (st.nReadCount + count)) (512 * secters - 0) := by
    rw [taken]
    omega
  have pieces : copyAt (copyAt st.pBuffer st.nReadCount
        (drop (clusterByte image geometry cluster) (512 * s + st.pos)) count)
        (st.nReadCount + count) (drop (clusterByte image geometry cluster) (512 * (s + 1)))
        (min (n - (st.nReadCount + count)) (512 * secters - 0)) =
      copyAt st.pBuffer st.nReadCount
        (drop (clusterByte image geometry cluster) (512 * s + st.pos))
        (taken n (secters + 1) st) := by
    rw [parts]
    by_cases whole : count = 512 - st.pos
    · have behind : drop (clusterByte image geometry cluster) (512 * (s + 1)) =
          drop (drop (clusterByte image geometry cluster) (512 * s + st.pos)) count := by
        funext i
        rw [drop_apply, drop_apply, drop_apply]
        congr 1
        omega
      rw [behind, copyAt_append]
    · have nothing : min (n - (st.nReadCount + count)) (512 * secters - 0) = 0 := by omega
      rw [nothing, copyAt_none, Nat.add_zero]
  simp only [passed, copied, ← countEq, if_neg some]
  rw [ite_self]
  simp only [taken] at parts pieces ⊢
  rw [pieces, parts, Nat.add_assoc]

/-- The loop over the sectors of a cluster, from a sector on: it skips up to the position, and
copies from there. -/
theorem secterLoop_bytes (bytes : geometry.bpbBytsPerSec = 512) (cluster secters s : Nat)
    (card : OnCard image geometry st.vol) (ok : st.bSuccess = true) (count : st.nReadCount ≤ n)
    (inside : st.pos < 512 * secters ∨ st.pos = 0) :
    ∃ vol, OnCard image geometry vol ∧
      secterLoop n secters ((clusterSecter geometry cluster + s) % 4294967296) st =
        passed image geometry cluster n secters (512 * s + st.pos) st vol := by
  induction secters generalizing s st with
  | zero =>
    have nothing : taken n 0 st = 0 := by rw [taken]; omega
    exact ⟨st.vol, card, (passed_none _ _ nothing).symm⟩
  | succ secters ih =>
    by_cases done : n ≤ st.nReadCount
    · have nothing : taken n (secters + 1) st = 0 := by rw [taken]; omega
      refine ⟨st.vol, card, ?_⟩
      rw [secterLoop_done _ _ done, passed_none _ _ nothing]
    · have onward : ((clusterSecter geometry cluster + s) % 4294967296 + 1) % 4294967296 =
          (clusterSecter geometry cluster + (s + 1)) % 4294967296 := by omega
      have size := (card.field (·.bpbBytsPerSec) fun _ _ => rfl).trans bytes
      rw [secterLoop, if_pos ⟨Nat.lt_of_not_le done, ok⟩]
      simp only [size, onward]
      by_cases behind : 512 ≤ st.pos
      · let next : ReadState := { st with pos := st.pos - 512 }
        have nextPos : next.pos = st.pos - 512 := rfl
        have nextCount : next.nReadCount = st.nReadCount := rfl
        obtain ⟨vol, card', rest⟩ := @ih next (s + 1) card ok count (by omega)
        have place : 512 * (s + 1) + next.pos = 512 * s + st.pos := by omega
        have same : taken n secters next = taken n (secters + 1) st := by
          rw [taken, taken, nextPos, nextCount]
          omega
        have more : taken n (secters + 1) st ≠ 0 := by
          rw [taken]
          omega
        refine ⟨vol, card', ?_⟩
        rw [if_pos behind, rest, place]
        simp only [passed, same, if_neg more, next]
      · obtain ⟨calls, read⟩ := card.read ((clusterSecter geometry cluster + s) % 4294967296)
        have filled := card.fill calls ((clusterSecter geometry cluster + s) % 4294967296)
        have size' := (filled.field (·.bpbBytsPerSec) fun _ _ => rfl).trans bytes
        have data : (geometry.cache image calls ((clusterSecter geometry cluster + s) %
            4294967296)).secterData = image ((clusterSecter geometry cluster + s) % 4294967296) := rfl
        obtain ⟨filledVol, volEq⟩ : ∃ v, v = geometry.cache image calls
          ((clusterSecter geometry cluster + s) % 4294967296) := ⟨_, rfl⟩
        rw [← volEq] at read filled size' data
        have step : ReadState.copy { st with vol := filledVol, bSuccess := true } n =
            copied image geometry cluster n (512 * s + st.pos) st filledVol := by
          have block : copyAt st.pBuffer st.nReadCount (drop filledVol.secterData st.pos)
                (min (512 - st.pos) (n - st.nReadCount)) =
              copyAt st.pBuffer st.nReadCount
                (drop (clusterByte image geometry cluster) (512 * s + st.pos))
                (min (512 - st.pos) (n - st.nReadCount)) := by
            rw [data]
            exact copyAt_congr _ _ _ _ _ fun i low => drop_clusterByte cluster s (by omega)
          simp only [ReadState.copy, size', block, copied, ok]
        have room : (copied image geometry cluster n (512 * s + st.pos) st filledVol).nReadCount ≤ n := by
          show st.nReadCount + min (512 - st.pos) (n - st.nReadCount) ≤ n
          omega
        obtain ⟨vol, card', rest⟩ := @ih (copied image geometry cluster n (512 * s + st.pos) st
          filledVol) (s + 1) filled ok room (Or.inr rfl)
        refine ⟨vol, card', ?_⟩
        rw [if_neg behind]
        simp only [read, if_true]
        rw [step, rest]
        exact passed_copied cluster s secters (Nat.lt_of_not_le behind) (Nat.lt_of_not_le done) vol
          filledVol

/-! ## Reads -/

/-- A record whose cluster is one of the file's, not behind its position. -/
structure Tracks (image : Nat → Bytes) (geometry : VolumeInfo) (l : Layout) (first size : Nat)
    (info : FatFileInfo) : Prop where
  low : info.clusterSeq * l.clusterBytes ≤ info.seekPos
  needed : info.clusterSeq * l.clusterBytes < size
  reaches : Reaches image geometry l first size info.clusterSeq info.cluster

/-- A step along the chain of the file. -/
theorem nextCluster_reaches (file : l.WellFormed image first size)
    (matched : Matches geometry l) (followed : Followed image geometry l first size)
    (card : OnCard image geometry st.vol) (ok : st.bSuccess = true)
    (needed : (st.file.clusterSeq + 1) * l.clusterBytes < size)
    (reaches : Reaches image geometry l first size st.file.clusterSeq st.file.cluster) :
    ∃ vol cluster, OnCard image geometry vol ∧
      Reaches image geometry l first size (st.file.clusterSeq + 1) cluster ∧
      st.nextCluster = { st with
        vol, file := { st.file with cluster, clusterSeq := st.file.clusterSeq + 1 } } := by
  obtain ⟨some, onward⟩ := reaches.next file matched followed needed
  obtain ⟨vol, found, card'⟩ := card.next st.file.cluster
  have small : st.file.clusterSeq + 1 < 4294967296 := by
    have positive := file.positive
    have range := file.range
    have bytes : 1 ≤ l.clusterBytes := by
      rw [Layout.clusterBytes]
      omega
    have grows := Nat.le_mul_of_pos_right (st.file.clusterSeq + 1) bytes
    omega
  refine ⟨vol, nextCluster image geometry st.file.cluster, card', onward, ?_⟩
  simp only [ReadState.nextCluster, found, some, ok, Nat.mod_eq_of_lt small, if_false, ne_eq,
    not_false_eq_true, decide_true, Bool.and_self]

/-- The first loop of a read reaches the cluster of the position. -/
theorem seekLoop_reaches (file : l.WellFormed image first size) (matched : Matches geometry l)
    (followed : Followed image geometry l first size) (fuel : Nat)
    (card : OnCard image geometry st.vol) (ok : st.bSuccess = true) (enough : st.pos ≤ fuel)
    (inside : st.file.clusterSeq * l.clusterBytes + st.pos < size)
    (reaches : Reaches image geometry l first size st.file.clusterSeq st.file.cluster) :
    ∃ vol cluster clusterSeq pos, OnCard image geometry vol ∧
      Reaches image geometry l first size clusterSeq cluster ∧ pos < l.clusterBytes ∧
      clusterSeq * l.clusterBytes + pos = st.file.clusterSeq * l.clusterBytes + st.pos ∧
      seekLoop fuel st = { st with vol, pos, file := { st.file with cluster, clusterSeq } } := by
  have positive : 0 < l.clusterBytes := by
    have := file.positive
    rw [Layout.clusterBytes]
    omega
  induction fuel generalizing st with
  | zero =>
    exact ⟨st.vol, st.file.cluster, st.file.clusterSeq, st.pos, card, reaches, by omega, rfl, rfl⟩
  | succ fuel ih =>
    have bytes := (card.field (·.nBytesPerCluster) fun _ _ => rfl).trans matched.clusterBytes
    by_cases near : st.pos < l.clusterBytes
    · have stops : ¬(st.vol.nBytesPerCluster ≤ st.pos ∧ st.bSuccess = true) := by
        rw [bytes]
        omega
      refine ⟨st.vol, st.file.cluster, st.file.clusterSeq, st.pos, card, reaches, near, rfl, ?_⟩
      rw [seekLoop, if_neg stops]
    · have onward : st.vol.nBytesPerCluster ≤ st.pos ∧ st.bSuccess = true := by
        rw [bytes]
        exact ⟨Nat.le_of_not_lt near, ok⟩
      have further : (st.file.clusterSeq + 1) * l.clusterBytes + (st.pos - l.clusterBytes) =
          st.file.clusterSeq * l.clusterBytes + st.pos := by
        rw [Nat.add_mul]
        omega
      obtain ⟨vol, cluster, card', reaches', step⟩ :=
        nextCluster_reaches file matched followed card ok (by omega) reaches
      let next : ReadState := { st with
        vol
        pos := st.pos - l.clusterBytes
        file := { st.file with cluster, clusterSeq := st.file.clusterSeq + 1 } }
      have moved : { st.nextCluster with pos := st.pos - st.vol.nBytesPerCluster } = next := by
        rw [step, bytes]
      have enough' : next.pos ≤ fuel := by
        show st.pos - l.clusterBytes ≤ fuel
        omega
      obtain ⟨vol', cluster', clusterSeq, pos, card'', there, near', place, rest⟩ :=
        @ih next card' ok enough' (by show (_ + 1) * _ + (_ - _) < size; omega) reaches'
      have unfolded : seekLoop (fuel + 1) st =
          seekLoop fuel { st.nextCluster with pos := st.pos - st.vol.nBytesPerCluster } :=
        if_pos onward
      refine ⟨vol', cluster', clusterSeq, pos, card'', there, near', place.trans further, ?_⟩
      rw [unfolded, moved, rest]

/-- The second loop of a read copies the rest of the request from the file. -/
theorem readLoop_bytes (file : l.WellFormed image first size) (matched : Matches geometry l)
    (followed : Followed image geometry l first size) (inside : p + n ≤ size) (fuel : Nat)
    (card : OnCard image geometry st.vol) (ok : st.bSuccess = true) (count : st.nReadCount ≤ n)
    (enough : n - st.nReadCount ≤ fuel) (near : st.pos < l.clusterBytes)
    (place : st.file.clusterSeq * l.clusterBytes + st.pos = p + st.nReadCount)
    (needed : st.file.clusterSeq * l.clusterBytes < size)
    (reaches : Reaches image geometry l first size st.file.clusterSeq st.file.cluster) :
    ∃ vol cluster clusterSeq pos, OnCard image geometry vol ∧
      Reaches image geometry l first size clusterSeq cluster ∧
      clusterSeq * l.clusterBytes < size ∧ clusterSeq * l.clusterBytes ≤ p + n ∧
      readLoop n fuel st = { st with
        vol
        pos
        pBuffer := copyAt st.pBuffer st.nReadCount
          (drop (l.fileByte image first) (p + st.nReadCount)) (n - st.nReadCount)
        nReadCount := n
        file := { st.file with cluster, clusterSeq } } := by
  induction fuel generalizing st with
  | zero =>
    have done : st.nReadCount = n := by omega
    refine ⟨st.vol, st.file.cluster, st.file.clusterSeq, st.pos, card, reaches, needed, by omega, ?_⟩
    rw [done, Nat.sub_self, copyAt_none, ← done]
    rfl
  | succ fuel ih =>
    by_cases done : n ≤ st.nReadCount
    · have all : st.nReadCount = n := Nat.le_antisymm count done
      refine ⟨st.vol, st.file.cluster, st.file.clusterSeq, st.pos, card, reaches, needed, by omega, ?_⟩
      rw [readLoop_done _ done, all, Nat.sub_self, copyAt_none, ← all]
    · have secters := (card.field (·.bpbSecPerCluster) fun _ _ => rfl).trans matched.perCluster
      have address := card.field (clusterSecter · st.file.cluster) fun _ _ => rfl
      have range : clusterSecter geometry st.file.cluster < 4294967296 := Nat.mod_lt _ (by decide)
      have clusterBytes : l.clusterBytes = 512 * l.perCluster := rfl
      obtain ⟨vol, card', pass⟩ := @secterLoop_bytes image geometry n st matched.bytes
        st.file.cluster l.perCluster 0 card ok count (Or.inl (by omega))
      obtain ⟨got, gotEq⟩ : ∃ got, got = taken n l.perCluster st := ⟨_, rfl⟩
      have some : 0 < got := by
        rw [gotEq, taken]
        omega
      have bytes : ∀ i, i < got →
          drop (clusterByte image geometry st.file.cluster) (512 * 0 + st.pos) i =
            drop (l.fileByte image first) (p + st.nReadCount) i := by
        intro i low
        rw [gotEq, taken] at low
        rw [drop_apply, drop_apply, ← place, Nat.mul_zero, Nat.zero_add, Nat.add_assoc]
        exact reaches.fileByte file needed (by omega)
      let after : ReadState := { st with
        vol
        pos := 0
        pBuffer := copyAt st.pBuffer st.nReadCount
          (drop (l.fileByte image first) (p + st.nReadCount)) got
        nReadCount := st.nReadCount + got }
      have passed : secterLoop n st.vol.bpbSecPerCluster (clusterSecter st.vol st.file.cluster) st =
          after := by
        rw [Nat.add_zero, Nat.mod_eq_of_lt range] at pass
        rw [secters, address, pass]
        simp only [Fat.passed, ← gotEq, if_neg (Nat.ne_of_gt some),
          copyAt_congr _ _ _ _ _ bytes, after]
      rw [readLoop, if_pos ⟨Nat.lt_of_not_le done, ok⟩]
      simp only [passed]
      by_cases more : st.nReadCount + got < n
      · have full : st.pos + got = l.clusterBytes := by
          rw [gotEq, taken] at more ⊢
          omega
        have place' : (st.file.clusterSeq + 1) * l.clusterBytes = p + (st.nReadCount + got) := by
          rw [Nat.add_mul, Nat.one_mul]
          omega
        obtain ⟨vol', cluster, card'', reaches', step⟩ :=
          @nextCluster_reaches image geometry l first size after file matched followed card' ok
            (by show (st.file.clusterSeq + 1) * _ < _; omega) reaches
        have positive : 0 < l.clusterBytes := by omega
        obtain ⟨vol'', cluster', clusterSeq, pos, card''', reaches'', needed', low, rest⟩ :=
          @ih { after with
              vol := vol'
              file := { st.file with cluster, clusterSeq := st.file.clusterSeq + 1 } } card'' ok
            (Nat.le_of_lt more) (by show n - (st.nReadCount + got) ≤ fuel; omega) positive place'
            (by show (st.file.clusterSeq + 1) * _ < _; omega) reaches'
        refine ⟨vol'', cluster', clusterSeq, pos, card''', reaches'', needed', low, ?_⟩
        have condition : after.nReadCount < n := more
        rw [if_pos condition, step]
        refine rest.trans ?_
        have behind : drop (l.fileByte image first) (p + (st.nReadCount + got)) =
            drop (drop (l.fileByte image first) (p + st.nReadCount)) got := by
          funext i
          simp only [drop_apply, Nat.add_assoc]
        have total : got + (n - (st.nReadCount + got)) = n - st.nReadCount := by omega
        simp only [after, behind, copyAt_append, total]
      · have all : st.nReadCount + got = n := by
          rw [gotEq, taken] at more ⊢
          omega
        have finished : n - st.nReadCount = got := by omega
        have condition : ¬after.nReadCount < n := more
        refine ⟨vol, st.file.cluster, st.file.clusterSeq, 0, card', reaches, needed, by omega, ?_⟩
        rw [if_neg condition, readLoop_done fuel (Nat.le_of_not_lt condition)]
        simp only [after, all, finished]

/-- A read inside a file: the bytes from its position on, and the record behind them. -/
theorem readFile_bytes (file : l.WellFormed image first size) (matched : Matches geometry l)
    (followed : Followed image geometry l first size) (card : OnCard image geometry vol)
    (tracks : Tracks image geometry l first size info) (some : 0 < n)
    (inside : info.seekPos + n ≤ size) (pBuffer : Bytes) :
    ∃ vol' info' pos, OnCard image geometry vol' ∧ Tracks image geometry l first size info' ∧
      info' = { info with
        seekPos := info.seekPos + n, cluster := info'.cluster, clusterSeq := info'.clusterSeq } ∧
      readFile vol info pBuffer n = ⟨vol', info', pos, n,
        copyAt pBuffer 0 (drop (l.fileByte image first) info.seekPos) n, true⟩ := by
  have range := file.range
  have low := tracks.low
  have bytes := (card.field (·.nBytesPerCluster) fun _ _ => rfl).trans matched.clusterBytes
  have positive : 0 < l.clusterBytes := by
    have := file.positive
    rw [Layout.clusterBytes]
    omega
  have offset : toU32 ((info.seekPos : Int) - info.clusterSeq * l.clusterBytes) =
      info.seekPos - info.clusterSeq * l.clusterBytes := by
    rw [← Int.natCast_mul, toU32_of_fits _ (by omega) (by omega)]
    omega
  have place : info.clusterSeq * l.clusterBytes + (info.seekPos - info.clusterSeq * l.clusterBytes) =
      info.seekPos := by omega
  obtain ⟨vol₁, cluster, clusterSeq, pos, card₁, reaches, near, there, start⟩ :
      ∃ vol₁ cluster clusterSeq pos, OnCard image geometry vol₁ ∧
        Reaches image geometry l first size clusterSeq cluster ∧ pos < l.clusterBytes ∧
        clusterSeq * l.clusterBytes + pos = info.seekPos ∧
        seekStart vol info pBuffer =
          ⟨vol₁, { info with cluster, clusterSeq }, pos, 0, pBuffer, true⟩ := by
    simp only [seekStart, bytes, offset]
    by_cases here : info.seekPos / l.clusterBytes = info.clusterSeq
    · have parts := Nat.div_add_mod' info.seekPos l.clusterBytes
      have small := Nat.mod_lt info.seekPos positive
      rw [here] at parts
      refine ⟨vol, info.cluster, info.clusterSeq, info.seekPos - info.clusterSeq * l.clusterBytes,
        card, tracks.reaches, by omega, place, ?_⟩
      rw [if_neg (not_not.mpr here)]
    · obtain ⟨vol₁, cluster, clusterSeq, pos, card₁, reaches, near, there, walked⟩ :=
        @seekLoop_reaches image geometry l first size ⟨vol, info,
          info.seekPos - info.clusterSeq * l.clusterBytes, 0, pBuffer, true⟩ file matched followed
          (info.seekPos - info.clusterSeq * l.clusterBytes) card rfl (Nat.le_refl _)
          (by
            show info.clusterSeq * l.clusterBytes + (info.seekPos - _) < size
            omega) tracks.reaches
      refine ⟨vol₁, cluster, clusterSeq, pos, card₁, reaches, near, there.trans place, ?_⟩
      rw [if_pos here, walked]
  obtain ⟨vol', cluster', clusterSeq', pos', card', reaches', needed', low', read⟩ :=
    @readLoop_bytes image geometry l first size n info.seekPos
      ⟨vol₁, { info with cluster, clusterSeq }, pos, 0, pBuffer, true⟩ file matched followed inside n
      card₁ rfl (Nat.zero_le n) (Nat.le_refl n) near there
      (by show clusterSeq * l.clusterBytes < size; omega) reaches
  refine ⟨vol', { info with
    seekPos := info.seekPos + n, cluster := cluster', clusterSeq := clusterSeq' }, pos', card',
    ⟨low', needed', reaches'⟩, rfl, ?_⟩
  rw [readFile_eq, start, read]
  simp only [if_true, Nat.mod_eq_of_lt (show info.seekPos + n < 4294967296 by omega), Nat.add_zero,
    Nat.sub_zero]

/-- A record at the first cluster of its file. -/
theorem tracks_first (matched : Matches geometry l) (file : l.WellFormed image first size)
    (room : 0 < size) (cluster : info.cluster = first) (clusterSeq : info.clusterSeq = 0) :
    Tracks image geometry l first size info := by
  have start : 0 * l.clusterBytes < size := by
    rw [Nat.zero_mul]
    exact room
  refine ⟨?_, ?_, ?_⟩
  · rw [clusterSeq, Nat.zero_mul]
    exact Nat.zero_le _
  · rw [clusterSeq]
    exact start
  · rw [cluster, clusterSeq]
    exact file.reaches matched start

end SoundBoard.Fat
