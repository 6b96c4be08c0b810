import UdpTransport.Gather

/-!
# When a gather takes everything

The limits of a gather are checked on words of 64 bits. Within them nothing is refused: pieces that
are few enough and whose sizes add up to no more than the limit end up in the gather one after the
other (`addAll_pieces`). A gather that took everything holds all the bytes, whatever its limits
(`toBytes_addAll`).
-/

namespace UdpTransport.Gather

variable {gather : Gather}

/-- A piece within the limits is taken. -/
theorem add_piece {piece : Bytes} (hpiece : piece ≠ [])
    (hcount : gather.regions.length < maxRegions)
    (hsize : gather.size.toNat + piece.length ≤ gather.maxBytes.toNat) :
    gather.add (.ofBytes piece) =
      (true, { gather with
        regions := gather.regions ++ [.ofBytes piece]
        size := gather.size + UInt64.ofNat piece.length }) := by
  have hmax := gather.maxBytes.toNat_lt
  have hlength : 0 < piece.length := List.length_pos_iff.mpr hpiece
  have hword : (UInt64.ofNat piece.length).toNat = piece.length :=
    UInt64.toNat_ofNat_of_lt' (by simp only [UInt64.size]; omega)
  have hnonempty : (Region.ofBytes piece).length ≠ 0 := by
    intro hzero
    have hzero' : piece.length = 0 := hword.symm.trans (congrArg UInt64.toNat hzero)
    omega
  have hroom : ¬ gather.maxBytes - gather.size < (Region.ofBytes piece).length := by
    have hle : gather.size ≤ gather.maxBytes := UInt64.le_iff_toNat_le.mpr (by omega)
    have hlen : (Region.ofBytes piece).length.toNat = piece.length := hword
    rw [UInt64.lt_iff_toNat_lt, UInt64.toNat_sub_of_le _ _ hle, hlen]
    omega
  unfold add
  rw [if_neg hnonempty, if_neg (Nat.not_le.mpr hcount), if_neg (fun h => hroom h.1)]
  rfl

/-- **Pieces within the limits are all taken.** -/
theorem addAll_pieces (pieces : List Bytes) (gather : Gather)
    (hpieces : ∀ piece ∈ pieces, piece ≠ [])
    (hcount : gather.regions.length + pieces.length ≤ maxRegions)
    (hsize : gather.size.toNat + pieces.flatten.length ≤ gather.maxBytes.toNat) :
    ∃ size, gather.addAll (pieces.map .ofBytes) =
      (true, ⟨gather.regions ++ pieces.map .ofBytes, size, gather.maxBytes⟩) := by
  induction pieces generalizing gather with
  | nil => exact ⟨gather.size, by simp [addAll]⟩
  | cons piece rest ih =>
    simp only [List.length_cons, List.flatten_cons, List.length_append] at hcount hsize
    have hmax := gather.maxBytes.toNat_lt
    have hword : (gather.size + UInt64.ofNat piece.length).toNat =
        gather.size.toNat + piece.length := by
      rw [UInt64.toNat_add, UInt64.toNat_ofNat_of_lt' (by simp only [UInt64.size]; omega)]
      omega
    have hfits : gather.size.toNat + piece.length ≤ gather.maxBytes.toNat := by omega
    have hadd := add_piece (hpieces piece List.mem_cons_self) (by omega) hfits
    obtain ⟨size, hrest⟩ := ih
      { gather with
        regions := gather.regions ++ [.ofBytes piece]
        size := gather.size + UInt64.ofNat piece.length }
      (fun piece hmem => hpieces piece (List.mem_cons_of_mem _ hmem))
      (by simp; omega) (by simp only [hword]; omega)
    refine ⟨size, ?_⟩
    rw [List.map_cons, addAll, hadd]
    simpa using hrest

/-- A piece that is taken is there behind what was there before. -/
theorem toBytes_add {gather' : Gather} {piece : Bytes} (hword : piece.length < UInt64.size)
    (h : gather.add (.ofBytes piece) = (true, gather')) :
    gather'.toBytes = gather.toBytes ++ piece := by
  unfold add at h
  split at h
  · -- A piece without bytes is left out.
    rename_i hzero
    have hlength : piece.length = 0 :=
      (UInt64.toNat_ofNat_of_lt' hword).symm.trans (congrArg UInt64.toNat hzero)
    cases h
    rw [List.length_eq_zero_iff.mp hlength, List.append_nil]
  · split at h
    · cases h
    · split at h
      · cases h
      · cases h
        simp [toBytes, Region.ofBytes]

/-- **Nothing is left out.** A gather that took all pieces holds their bytes in order. -/
theorem toBytes_addAll {gather' : Gather} (pieces : List Bytes)
    (hwords : ∀ piece ∈ pieces, piece.length < UInt64.size)
    (h : gather.addAll (pieces.map .ofBytes) = (true, gather')) :
    gather'.toBytes = gather.toBytes ++ pieces.flatten := by
  induction pieces generalizing gather with
  | nil =>
    cases h
    exact (List.append_nil _).symm
  | cons piece rest ih =>
    obtain ⟨hword, hrest⟩ := List.forall_mem_cons.mp hwords
    rw [List.map_cons, addAll] at h
    cases hadd : gather.add (.ofBytes piece) with
    | mk accepted next =>
      rw [hadd] at h
      cases accepted with
      | false => cases h
      | true => rw [ih hrest h, toBytes_add hword hadd, List.flatten_cons, List.append_assoc]

theorem toBytes_pieces (pieces : List Bytes) (size maxBytes : UInt64) :
    (⟨pieces.map .ofBytes, size, maxBytes⟩ : Gather).toBytes = pieces.flatten := by
  unfold toBytes
  rw [List.flatMap_map]
  exact List.flatMap_id'

end UdpTransport.Gather
