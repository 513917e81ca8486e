import SplitterLaunch.Proofs.Hex

/-! Every byte string of fixed length is read back from its text. -/

namespace SplitterLaunch

namespace FixedBytes
variable {n : Nat}

theorem fit_bytes (b : FixedBytes n) : fit n b.bytes = b := by
  apply ext
  show b.bytes.take n ++ List.replicate (n - b.bytes.length) 0 = b.bytes
  rw [b.length_bytes, Nat.sub_self, List.take_of_length_le (Nat.le_of_eq b.length_bytes)]
  exact List.append_nil _

theorem ofText?_text (b : FixedBytes n) : ofText? n b.text = some b := by
  have hstrip : stripMark b.text.toList = Hex.encode b.bytes := by
    rw [text, String.toList_ofList]
    rfl
  have hlength : (Hex.encode b.bytes).length = 2 * n := by rw [Hex.length_encode, b.length_bytes]
  have hbytes : Text.byteLength (Hex.encode b.bytes) = 2 * n := by
    rw [Text.byteLength_of_utf8Size, hlength]
    intro c hc
    obtain ⟨k, hk, rfl⟩ := Hex.digit_of_mem_encode hc
    exact Hex.utf8Size_digit hk
  have hfilter : (Hex.encode b.bytes).filter (fun c => !isFiller c) = Hex.encode b.bytes := by
    rw [List.filter_eq_self]
    intro c hc
    obtain ⟨k, hk, rfl⟩ := Hex.digit_of_mem_encode hc
    rw [Hex.isFiller_digit hk]
    rfl
  have hdigits : (Hex.encode b.bytes).all Hex.isDigit = true := by
    rw [List.all_eq_true]
    intro c hc
    obtain ⟨k, hk, rfl⟩ := Hex.digit_of_mem_encode hc
    exact Hex.isDigit_digit hk
  have htake : (Hex.encode b.bytes).take ((Hex.encode b.bytes).length / 2 * 2) = Hex.encode b.bytes :=
    List.take_of_length_le (by omega)
  unfold ofText?
  simp only [hstrip, hbytes, hfilter, htake, hdigits, Hex.decode?_encode, if_true, Option.bind_some, fit_bytes]

end FixedBytes
end SplitterLaunch
