import Mathlib.Data.Nat.Digits.Lemmas
import ShipManifest.Proofs.Reloading

/-!
# Small edits of a file

The checksum takes in bits by a map that is linear in exclusive or (`Checksum.step_xor`) and sends only zero to zero, so
different states stay different (`Checksum.foldl_addByte_injective`). Up to four bytes are taken in like one word
(`Checksum.foldl_addByte_eq_steps`), and different bytes make different words. So bytes that differ within four
consecutive places only have different checksums (`Checksum.ofBytes_ne_of_smallEdit`).

Main statement: a reload never takes a file for unchanged that was edited at such places
(`Store.reload_notices_small_edit`).
-/

namespace ShipManifest

namespace Checksum

/-! ## Taking in bits -/

theorem and_one (s : UInt32) : s &&& 1 = if s.toNat % 2 = 1 then 1 else 0 := by
  rw [← UInt32.toNat_inj, UInt32.toNat_and]
  have hone : s.toNat &&& (1 : UInt32).toNat = s.toNat % 2 := Nat.and_one_is_mod _
  rw [hone]
  split
  · assumption
  · have : s.toNat % 2 = 0 := by omega
    simpa using this

theorem toNat_shiftRight_one (s : UInt32) : (s >>> 1).toNat = s.toNat / 2 := by
  rw [UInt32.toNat_shiftRight]
  exact Nat.shiftRight_one _

theorem toNat_ofNat {n : Nat} (h : n < 2 ^ 32) : (UInt32.ofNat n).toNat = n :=
  UInt32.toNat_ofNat_of_lt' h

/-- A step halves the state, and takes off the polynomial if a bit is lost. -/
theorem step_eq (s : UInt32) : step s = s >>> 1 ^^^ if s.toNat % 2 = 1 then 0xEDB88320 else 0 := by
  rw [step, and_one]
  by_cases h : s.toNat % 2 = 1 <;> simp [h]

/-- **A step is linear in exclusive or.** -/
theorem step_xor (a b : UInt32) : step (a ^^^ b) = step a ^^^ step b := by
  have hodd : (a ^^^ b).toNat % 2 = 1 ↔ ¬ (a.toNat % 2 = 1 ↔ b.toNat % 2 = 1) := by
    rw [UInt32.toNat_xor, Nat.xor_mod_two_eq_one]
  rw [step_eq, step_eq, step_eq, UInt32.shiftRight_xor]
  simp only [hodd]
  -- the polynomial is taken off once if one of the low bits is set, and otherwise twice or not at all
  by_cases ha : a.toNat % 2 = 1
  · by_cases hb : b.toNat % 2 = 1
    · simp only [ha, hb, not_true_eq_false, ↓reduceIte, UInt32.xor_zero]
      rw [UInt32.xor_comm (b >>> 1), UInt32.xor_assoc, ← UInt32.xor_assoc 0xEDB88320, UInt32.xor_self, UInt32.zero_xor]
    · simp only [ha, hb, iff_false, not_true_eq_false, not_false_eq_true, ↓reduceIte, UInt32.xor_zero]
      rw [UInt32.xor_assoc, UInt32.xor_assoc, UInt32.xor_comm (b >>> 1)]
  · by_cases hb : b.toNat % 2 = 1
    · simp only [ha, hb, iff_true, not_false_eq_true, ↓reduceIte, UInt32.xor_zero, UInt32.xor_assoc]
    · simp only [ha, hb, not_true_eq_false, ↓reduceIte, UInt32.xor_zero]

/-- The highest bit of the polynomial is set, so that no other state is sent to zero. -/
theorem eq_zero_of_step {s : UInt32} (h : step s = 0) : s = 0 := by
  have hlt := s.toNat_lt
  have hhalf := toNat_shiftRight_one s
  rw [step_eq, UInt32.xor_eq_zero_iff] at h
  rw [h] at hhalf
  rw [← UInt32.toNat_inj]
  split at hhalf
  · simp at hhalf
    omega
  · simp at hhalf ⊢
    omega

theorem steps_xor (n : Nat) (a b : UInt32) : steps n (a ^^^ b) = steps n a ^^^ steps n b := by
  induction n generalizing a b with
  | zero => rfl
  | succ n ih => rw [steps, steps, steps, step_xor, ih]

theorem eq_zero_of_steps {n : Nat} {s : UInt32} (h : steps n s = 0) : s = 0 := by
  induction n generalizing s with
  | zero => exact h
  | succ n ih => exact eq_zero_of_step (ih h)

/-- Different states stay different. -/
theorem steps_injective (n : Nat) : Function.Injective (steps n) := by
  intro a b h
  rw [← UInt32.xor_eq_zero_iff, ← steps_xor] at h
  exact UInt32.xor_eq_zero_iff.mp (eq_zero_of_steps h)

theorem steps_add (m n : Nat) (s : UInt32) : steps (m + n) s = steps n (steps m s) := by
  induction m generalizing s with
  | zero => rw [Nat.zero_add, steps]
  | succ m ih => rw [Nat.succ_add, steps, steps, ih]

/-- Zeros are taken in by shifting. -/
theorem steps_shifted (n : Nat) {w : Nat} (h : 2 ^ n * w < 2 ^ 32) :
    steps n (UInt32.ofNat (2 ^ n * w)) = UInt32.ofNat w := by
  induction n with
  | zero => rw [steps, Nat.pow_zero, Nat.one_mul]
  | succ n ih =>
    have hpow : 2 ^ (n + 1) * w = 2 * (2 ^ n * w) := by ring
    rw [hpow] at h ⊢
    have hstep : step (UInt32.ofNat (2 * (2 ^ n * w))) = UInt32.ofNat (2 ^ n * w) := by
      have hnat : (UInt32.ofNat (2 * (2 ^ n * w))).toNat = 2 * (2 ^ n * w) := toNat_ofNat h
      rw [step_eq, hnat, if_neg (by omega), UInt32.xor_zero, ← UInt32.toNat_inj, toNat_shiftRight_one, hnat,
        toNat_ofNat (by omega)]
      omega
    rw [steps, hstep]
    exact ih (by omega)

/-! ## Taking in bytes -/

theorem addByte_injective (byte : UInt8) : Function.Injective (addByte · byte) :=
  fun _ _ h => (UInt32.xor_left_inj _).mp (steps_injective 8 h)

/-- Different states stay different when the same bytes are taken in. -/
theorem foldl_addByte_injective (bytes : Text.Bytes) : Function.Injective (bytes.foldl addByte ·) := by
  induction bytes with
  | nil => exact fun _ _ h => h
  | cons byte rest ih => exact fun _ _ h => addByte_injective byte (ih h)

/-- The number that bytes stand for, the lowest one first. -/
def word (bytes : Text.Bytes) : Nat :=
  Nat.ofDigits 256 (bytes.map UInt8.toNat)

theorem word_lt (bytes : Text.Bytes) : word bytes < 256 ^ bytes.length := by
  have h : ∀ d ∈ bytes.map UInt8.toNat, d < 256 := List.forall_mem_map.mpr fun b _ => b.toNat_lt
  simpa [word] using Nat.ofDigits_lt_base_pow_length (by decide) h

theorem eq_of_word_eq {xs ys : Text.Bytes} (hlength : xs.length = ys.length) (h : word xs = word ys) : xs = ys := by
  have hdigits : ∀ bytes : Text.Bytes, ∀ d ∈ bytes.map UInt8.toNat, d < 256 :=
    fun bytes => List.forall_mem_map.mpr fun b _ => b.toNat_lt
  have hmaps := Nat.ofDigits_inj_of_len_eq (by decide) (by simpa using hlength) (hdigits xs) (hdigits ys) h
  exact List.map_injective_iff.mpr (fun a b => UInt8.toNat_inj.mp) hmaps

/-- A byte and what stands above it do not meet. -/
theorem xor_above {b : Nat} (hb : b < 2 ^ 8) (w : Nat) : b ^^^ 2 ^ 8 * w = b + 256 * w := by
  have hsum : b + 256 * w = 2 ^ 8 * w + b := by omega
  refine Nat.eq_of_testBit_eq fun i => ?_
  rw [hsum, Nat.testBit_xor, Nat.testBit_two_pow_mul, Nat.testBit_two_pow_mul_add w hb]
  by_cases h : i < 8
  · simp [h, Nat.not_le.mpr h]
  · have hlow : b.testBit i = false :=
      Nat.testBit_lt_two_pow (hb.trans_le (Nat.pow_le_pow_right (by decide) (by omega)))
    simp [h, hlow]
    omega

/-- **Up to four bytes are taken in like the number that they stand for.** -/
theorem foldl_addByte_eq_steps {bytes : Text.Bytes} (h : bytes.length ≤ 4) (s : UInt32) :
    bytes.foldl addByte s = steps (8 * bytes.length) (s ^^^ UInt32.ofNat (word bytes)) := by
  induction bytes generalizing s with
  | nil => simp [steps, word]
  | cons byte rest ih =>
    rw [List.length_cons] at h
    have hrest : 2 ^ 8 * word rest < 2 ^ 32 := by
      have hword : word rest < 256 ^ 3 := (word_lt rest).trans_le (Nat.pow_le_pow_right (by decide) (by omega))
      omega
    have hword : word (byte :: rest) = byte.toNat + 256 * word rest := by simp [word, Nat.ofDigits_cons]
    have hbyte : byte.toUInt32 ^^^ UInt32.ofNat (2 ^ 8 * word rest) = UInt32.ofNat (word (byte :: rest)) := by
      have hlt := byte.toNat_lt
      rw [← UInt32.toNat_inj, UInt32.toNat_xor, UInt8.toNat_toUInt32, toNat_ofNat hrest,
        toNat_ofNat (by omega), xor_above hlt, hword]
    rw [List.foldl_cons, ih (by omega), List.length_cons, Nat.mul_succ, Nat.add_comm, steps_add, addByte,
      ← steps_shifted 8 hrest, ← steps_xor, UInt32.xor_assoc, hbyte]

end Checksum

/-! ## Edits -/

namespace Text

/-- The bytes after an edit that keeps their number and changes some of them, all within four consecutive places. -/
structure SmallEdit (before after : Bytes) : Prop where
  length_eq : after.length = before.length
  changed : after ≠ before
  within : ∃ start, ∀ i, after[i]? ≠ before[i]? → start ≤ i ∧ i < start + 4

/-- To replace up to four bytes by as many others is a small edit. -/
theorem smallEdit_of_replaced (front old new rest : Bytes) (hold : old.length ≤ 4) (hlength : new.length = old.length)
    (hne : new ≠ old) : SmallEdit (front ++ (old ++ rest)) (front ++ (new ++ rest)) := by
  refine ⟨by simp [hlength], by simpa using hne, front.length, fun i hi => ?_⟩
  by_contra hout
  refine hi ?_
  rcases Nat.lt_or_ge i front.length with hfront | hfront
  · rw [List.getElem?_append_left hfront, List.getElem?_append_left hfront]
  · have hrest : old.length ≤ i - front.length := by omega
    rw [List.getElem?_append_right hfront, List.getElem?_append_right hfront, List.getElem?_append_right hrest,
      List.getElem?_append_right (hlength.trans_le hrest), hlength]

/-- A small edit replaces up to four bytes by as many others. -/
theorem SmallEdit.replaces {before after : Bytes} (h : SmallEdit before after) :
    ∃ front old new rest, before = front ++ (old ++ rest) ∧ after = front ++ (new ++ rest) ∧
      old.length ≤ 4 ∧ new.length = old.length ∧ new ≠ old := by
  obtain ⟨hlength, hchanged, start, hwithin⟩ := h
  have hsame : ∀ i, i < start ∨ start + 4 ≤ i → after[i]? = before[i]? := by
    intro i hi
    by_contra hne
    have := hwithin i hne
    omega
  have hfront : after.take start = before.take start := by
    refine List.ext_getElem? fun i => ?_
    rw [List.getElem?_take, List.getElem?_take]
    split
    · exact hsame i (.inl ‹_›)
    · rfl
  have hrest : (after.drop start).drop 4 = (before.drop start).drop 4 := by
    refine List.ext_getElem? fun i => ?_
    rw [List.getElem?_drop, List.getElem?_drop, List.getElem?_drop, List.getElem?_drop]
    exact hsame _ (.inr (by omega))
  have hafter : after = before.take start ++ ((after.drop start).take 4 ++ (before.drop start).drop 4) := by
    rw [← hrest, List.take_append_drop, ← hfront, List.take_append_drop]
  refine ⟨before.take start, (before.drop start).take 4, (after.drop start).take 4, (before.drop start).drop 4, ?_,
    hafter, List.length_take_le _ _, ?_, fun hnew => hchanged ?_⟩
  · rw [List.take_append_drop, List.take_append_drop]
  · rw [List.length_take, List.length_take, List.length_drop, List.length_drop, hlength]
  · rw [hafter, hnew, List.take_append_drop, List.take_append_drop]

end Text

/-- **A small edit changes the checksum.** -/
theorem Checksum.ofBytes_ne_of_smallEdit {before after : Text.Bytes} (h : Text.SmallEdit before after) :
    ofBytes after ≠ ofBytes before := by
  obtain ⟨front, old, new, rest, rfl, rfl, hold, hlength, hne⟩ := h.replaces
  intro heq
  rw [ofBytes, ofBytes, UInt32.not_inj] at heq
  simp only [List.foldl_append] at heq
  -- the same bytes follow and the same bytes came before, so the two words would be the same
  have hstates := foldl_addByte_injective rest heq
  rw [foldl_addByte_eq_steps (hlength.trans_le hold), foldl_addByte_eq_steps hold, hlength] at hstates
  have hwords := (UInt32.xor_right_inj _).mp (steps_injective _ hstates)
  have hlt : ∀ bytes : Text.Bytes, bytes.length ≤ 4 → word bytes < 2 ^ 32 := fun bytes hb =>
    (word_lt bytes).trans_le (Nat.pow_le_pow_right (by decide) hb)
  rw [← UInt32.toNat_inj, toNat_ofNat (hlt _ (hlength.trans_le hold)),
    toNat_ofNat (hlt _ hold)] at hwords
  exact hne (eq_of_word_eq hlength hwords)

namespace Store

/-- **A reload never misses a small edit.** If the current snapshot was loaded from the file and the file was edited in
place within four consecutive bytes, the reload swaps in the records of the new text, or fails because it is no text. -/
theorem reload_notices_small_edit {s : Store} {disk : Disk} {loadedAt : Instant} {path : String}
    {before after : Text.Bytes} (disk' : Disk) (now : Instant)
    (hcurrent : (Manifest.load disk loadedAt path).result = .ok s.current)
    (hbefore : disk path = .ok before) (hafter : disk' path = .ok after) (hedit : Text.SmallEdit before after) :
    let reloaded := s.reload disk' now path
    reloaded.outcome.result ≠ .ok .unchanged ∧
      (∀ text, Text.decode? after = some text →
        reloaded.outcome.result = .ok (.swapped (Manifest.parse now text).records.length) ∧
        reloaded.store.current.headers = (Manifest.parse now text).headers ∧
        reloaded.store.current.records = (Manifest.parse now text).records) ∧
      (Text.decode? after = none → reloaded.outcome.result = .error (.notText path) ∧ reloaded.store = s) := by
  intro reloaded
  obtain ⟨bytes, text, hbytes, htext, hm⟩ := Manifest.load_eq_ok_iff.mp hcurrent
  obtain rfl : bytes = before := by simpa using hbytes.symm.trans hbefore
  have hsum : s.current.checksum = Checksum.ofBytes bytes := by
    rw [hm, ← Text.encode_of_decode? htext]
    rfl
  have hstale : ¬ s.UpToDate path after := fun hup => Checksum.ofBytes_ne_of_smallEdit hedit (hup.2.trans hsum)
  have hreload : reloaded = s.swapIn disk' now path := reload_of_stale hafter hstale
  cases ht : Text.decode? after with
  | none =>
    rw [hreload, swapIn, Manifest.load_of_notText hafter ht]
    simp
  | some text' =>
    rw [hreload, swapIn, Manifest.load_of_text hafter ht]
    refine ⟨by simp, fun text'' htext'' => ?_, by simp⟩
    obtain rfl := Option.some.inj htext''
    exact ⟨rfl, rfl, rfl⟩

/-- An edit of three bytes, and one that leaves no text. -/
theorem reload_notices_small_edit_of_name :
    let before := Text.encode "Name\nA/ One"
    let after := Text.encode "Name\nA/ Two"
    let spoilt := Text.encode "Name\n" ++ [0xFF] ++ Text.encode "/ One"
    let file : Text.Bytes → Disk := fun bytes _ => .ok bytes
    let s := ofManifest (Manifest.ofFile ⟨0⟩ "m.csv" "Name\nA/ One")
    (Manifest.load (file before) ⟨0⟩ "m.csv").result = .ok s.current ∧ Text.SmallEdit before after ∧
      Text.SmallEdit before spoilt ∧ Text.decode? spoilt = none ∧
      (s.reload (file after) ⟨1⟩ "m.csv").outcome.result = .ok (.swapped 1) ∧
      (s.reload (file after) ⟨1⟩ "m.csv").store.current.records.map (·.firstName) = [some " Two"] ∧
      (s.reload (file spoilt) ⟨1⟩ "m.csv").outcome.result = .error (.notText "m.csv") ∧
      (s.reload (file spoilt) ⟨1⟩ "m.csv").store = s := by
  intro before after spoilt file s
  have hcurrent : (Manifest.load (file before) ⟨0⟩ "m.csv").result = .ok s.current := by
    rw [Manifest.load_of_text rfl (Text.decode?_encode _)]
    rfl
  have hedit : Text.SmallEdit before after :=
    Text.smallEdit_of_replaced (Text.encode "Name\nA/ ") (Text.encode "One") (Text.encode "Two") [] (by decide +kernel)
      (by decide +kernel) (by decide +kernel)
  have hspoilt : Text.SmallEdit before spoilt :=
    Text.smallEdit_of_replaced (Text.encode "Name\n") (Text.encode "A") [0xFF] (Text.encode "/ One") (by decide +kernel)
      (by decide +kernel) (by decide +kernel)
  have hnone : Text.decode? spoilt = none := by decide +kernel
  obtain ⟨-, hswapped, -⟩ := reload_notices_small_edit (file after) ⟨1⟩ hcurrent rfl rfl hedit
  obtain ⟨hanswer, -, hrecords⟩ := hswapped _ (Text.decode?_encode _)
  obtain ⟨-, -, hfails⟩ := reload_notices_small_edit (file spoilt) ⟨1⟩ hcurrent rfl rfl hspoilt
  refine ⟨hcurrent, hedit, hspoilt, hnone, hanswer.trans (by decide +kernel), ?_, hfails hnone⟩
  rw [hrecords]
  decide +kernel

end Store

end ShipManifest
