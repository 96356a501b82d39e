namespace Calculator.Text

def bytes (s : String) : List UInt8 := s.toUTF8.data.toList

def ofBytes? (bs : List UInt8) : Option String := String.fromUTF8? ⟨bs.toArray⟩

theorem ofBytes?_bytes (s : String) : ofBytes? (bytes s) = some s := by
  have hs : (⟨(bytes s).toArray⟩ : ByteArray) = s.toByteArray := rfl
  rw [ofBytes?, hs, String.fromUTF8?, dif_pos s.isValidUTF8]
  rfl

theorem bytes_inj {s t : String} (h : bytes s = bytes t) : s = t := by
  have ho : some s = some t := by rw [← ofBytes?_bytes s, h, ofBytes?_bytes]
  exact Option.some.inj ho

theorem bytes_eq_flatMap (s : String) : bytes s = s.toList.flatMap String.utf8EncodeChar := by
  rw [bytes, String.toUTF8_eq_toByteArray, ← String.utf8Encode_toList]
  exact List.toList_data_toByteArray

theorem bytes_append (s t : String) : bytes (s ++ t) = bytes s ++ bytes t := by
  rw [bytes_eq_flatMap, bytes_eq_flatMap, bytes_eq_flatMap, String.toList_append,
    List.flatMap_append]

def newline : UInt8 := 10

theorem bytes_newline : bytes "\n" = [newline] := rfl

theorem newline_eq_ofNat_iff {n : Nat} : newline = UInt8.ofNat n ↔ n % 256 = 10 := by
  rw [← UInt8.toNat_inj, UInt8.toNat_ofNat', eq_comm]
  rfl

/-- A newline is no part of the bytes of another character. -/
theorem eq_of_newline_mem {c : Char} (h : newline ∈ String.utf8EncodeChar c) : c = '\n' := by
  have hn : c.val.toNat = 10 := by
    unfold String.utf8EncodeChar at h
    generalize c.val.toNat = n at h
    dsimp only at h
    repeat' split at h
    all_goals
      simp only [List.mem_cons, List.not_mem_nil, or_false, newline_eq_ofNat_iff] at h
      omega
  exact Char.ext (UInt32.toNat_inj.1 hn)

theorem newline_mem_bytes {s : String} (h : newline ∈ bytes s) : '\n' ∈ s.toList := by
  rw [bytes_eq_flatMap] at h
  obtain ⟨c, hc, hn⟩ := List.mem_flatMap.1 h
  rwa [eq_of_newline_mem hn] at hc

end Calculator.Text
