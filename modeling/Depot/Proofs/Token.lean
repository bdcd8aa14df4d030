import Depot.Http.Service

namespace Depot.Text

theorem ofUtf8?_utf8 (s : String) : ofUtf8? (utf8 s) = some s := by
  have hbytes : (⟨(utf8 s).toArray⟩ : ByteArray) = s.toByteArray := by
    rw [← String.utf8Encode_toList]
    ext1
    simp [utf8, List.utf8Encode]
  simp only [ofUtf8?, hbytes, String.fromUTF8?, s.isValidUTF8, dif_pos]
  rfl

theorem pieces_append {ends : Char → Bool} {cs : List Char} {c : Char} (rest : List Char)
    (h : ∀ c ∈ cs, ends c = false) (hc : ends c = true) :
    pieces ends (cs ++ c :: rest) = cs :: pieces ends rest := by
  induction cs with
  | nil => simp [pieces, hc]
  | cons x cs ih =>
    obtain ⟨hx, hcs⟩ := List.forall_mem_cons.1 h
    simp [pieces, hx, ih hcs]

theorem pieces_eq_singleton {ends : Char → Bool} {cs : List Char} (h : ∀ c ∈ cs, ends c = false) :
    pieces ends cs = [cs] := by
  induction cs with
  | nil => rfl
  | cons x cs ih =>
    obtain ⟨hx, hcs⟩ := List.forall_mem_cons.1 h
    simp [pieces, hx, ih hcs]

end Depot.Text

namespace Depot.Token.Base64

def sextets : List UInt8 → List Nat
  | [] => []
  | [a] => [a.toNat / 4, a.toNat % 4 * 16]
  | [a, b] => [a.toNat / 4, a.toNat % 4 * 16 + b.toNat / 16, b.toNat % 16 * 4]
  | a :: b :: c :: rest =>
    a.toNat / 4 :: (a.toNat % 4 * 16 + b.toNat / 16) :: (b.toNat % 16 * 4 + c.toNat / 64) ::
      c.toNat % 64 :: sextets rest

theorem encode_eq (bytes : List UInt8) : encode bytes = (sextets bytes).map digit := by
  fun_induction encode bytes with
  | case1 | case2 | case3 => rfl
  | case4 a b c rest ih => simp [sextets, ih]

theorem sextets_lt (bytes : List UInt8) : ∀ n ∈ sextets bytes, n < 64 := by
  fun_induction sextets bytes with
  | case1 => simp
  | case2 a =>
    have ha := a.toNat_lt
    simp only [List.forall_mem_cons, List.not_mem_nil, false_implies, implies_true, and_true]
    omega
  | case3 a b =>
    have ha := a.toNat_lt
    have hb := b.toNat_lt
    simp only [List.forall_mem_cons, List.not_mem_nil, false_implies, implies_true, and_true]
    omega
  | case4 a b c rest ih =>
    have ha := a.toNat_lt
    have hb := b.toNat_lt
    have hc := c.toNat_lt
    simp only [List.forall_mem_cons]
    exact ⟨by omega, by omega, by omega, by omega, ih⟩

theorem value?_digit : ∀ n < 64, value? (digit n) = some n := by decide

theorem mapM_value? {ns : List Nat} (h : ∀ n ∈ ns, n < 64) :
    (ns.map digit).mapM value? = some ns := by
  induction ns with
  | nil => rfl
  | cons n ns ih =>
    obtain ⟨hn, hns⟩ := List.forall_mem_cons.1 h
    simp [List.mapM_cons, value?_digit n hn, ih hns]

theorem ofNat_eq {n : Nat} {a : UInt8} (h : n = a.toNat) : UInt8.ofNat n = a := by
  rw [h, UInt8.ofNat_toNat]

theorem decodeValues_sextets (bytes : List UInt8) : decodeValues (sextets bytes) = some bytes := by
  fun_induction sextets bytes with
  | case1 => rfl
  | case2 a =>
    have ha : UInt8.ofNat (a.toNat / 4 * 4 + a.toNat % 4 * 16 / 16) = a := ofNat_eq (by omega)
    rw [decodeValues, if_pos (by omega), ha]
  | case3 a b =>
    have hb := b.toNat_lt
    have ha : UInt8.ofNat (a.toNat / 4 * 4 + (a.toNat % 4 * 16 + b.toNat / 16) / 16) = a :=
      ofNat_eq (by omega)
    have hb : UInt8.ofNat ((a.toNat % 4 * 16 + b.toNat / 16) % 16 * 16 +
        b.toNat % 16 * 4 / 4) = b := ofNat_eq (by omega)
    rw [decodeValues, if_pos (by omega), ha, hb]
  | case4 a b c rest ih =>
    have hb' := b.toNat_lt
    have hc' := c.toNat_lt
    have ha : UInt8.ofNat (a.toNat / 4 * 4 + (a.toNat % 4 * 16 + b.toNat / 16) / 16) = a :=
      ofNat_eq (by omega)
    have hb : UInt8.ofNat ((a.toNat % 4 * 16 + b.toNat / 16) % 16 * 16 +
        (b.toNat % 16 * 4 + c.toNat / 64) / 4) = b := ofNat_eq (by omega)
    have hc : UInt8.ofNat ((b.toNat % 16 * 4 + c.toNat / 64) % 4 * 64 + c.toNat % 64) = c :=
      ofNat_eq (by omega)
    simp only [decodeValues, ih, Option.map_some, ha, hb, hc]

theorem decode_encode (bytes : List UInt8) : decode (encode bytes) = some bytes := by
  rw [decode, encode_eq, mapM_value? (sextets_lt bytes)]
  exact decodeValues_sextets bytes

theorem isVisible_digit :
    ∀ n < 64, (32 ≤ (digit n).toNat ∧ (digit n).toNat < 127) ∧ digit n ≠ '.' := by decide

theorem mem_encode {bytes : List UInt8} {c : Char} (h : c ∈ encode bytes) :
    (32 ≤ c.toNat ∧ c.toNat < 127) ∧ c ≠ '.' := by
  rw [encode_eq] at h
  obtain ⟨n, hn, rfl⟩ := List.mem_map.1 h
  exact isVisible_digit n (sextets_lt bytes n hn)

end Depot.Token.Base64

namespace Depot.Token

theorem decodePart_part (j : Json) : decodePart (part j) = some j.text := by
  rw [decodePart, part, Base64.decode_encode, Option.bind_some, Text.ofUtf8?_utf8]

theorem part_ends (j : Json) : ∀ c ∈ part j, (c == '.') = false := by
  intro c hc
  simpa using (Base64.mem_encode hc).2

theorem signature_ends (secret : String) (message : List Char) :
    ∀ c ∈ signature secret message, (c == '.') = false := by
  intro c hc
  simpa using (Base64.mem_encode hc).2

theorem acceptsHeader_header : acceptsHeader header.text = true := by decide +kernel

theorem read?_sign (secret : String) (now : Int) (claims : Claims) :
    read? secret now (sign secret claims) =
      (Claims.ofText? claims.toJson.text).filter fun c => now - leeway ≤ (c.expires : Int) := by
  simp only [read?, sign, String.toList_ofList, List.append_assoc, List.cons_append]
  rw [Text.pieces_append _ (part_ends header) rfl,
    Text.pieces_append _ (part_ends claims.toJson) rfl,
    Text.pieces_eq_singleton (signature_ends secret _)]
  simp only [if_true, decodePart_part, acceptsHeader_header]

theorem isVisible_sign (secret : String) (claims : Claims) :
    Http.isVisible (sign secret claims) = true := by
  have hencode : ∀ bytes, ∀ c ∈ Base64.encode bytes, (32 ≤ c.toNat && c.toNat < 127) = true := by
    intro bytes c hc
    simpa using (Base64.mem_encode hc).1
  refine List.all_eq_true.2 fun c hc => Bool.or_eq_true_iff.2 (.inl ?_)
  simp only [sign, String.toList_ofList, List.mem_append, List.mem_cons] at hc
  obtain (hc | rfl | hc) | rfl | hc := hc
  · exact hencode _ c hc
  · rfl
  · exact hencode _ c hc
  · rfl
  · exact hencode _ c hc

theorem sign_nonempty (secret : String) (claims : Claims) :
    (sign secret claims).isEmpty = false := by
  simp [sign]

end Depot.Token

namespace Depot.Http

theorem withoutScheme_bearer (token : String) : withoutScheme ("Bearer " ++ token) = token := by
  simp [withoutScheme]

theorem Request.header?_of_bearer {r : Request} {token : String}
    (h : r.headers.find? (·.1 == "authorization") = some ("authorization", "Bearer " ++ token))
    (hvisible : isVisible token) : r.header? "authorization" = some ("Bearer " ++ token) := by
  have hall : isVisible ("Bearer " ++ token) = true := by
    rw [isVisible, String.toList_append, List.all_append, Bool.and_eq_true]
    exact ⟨by decide, hvisible⟩
  simp [header?, h, hall]

theorem Request.token?_of_bearer {r : Request} {token : String}
    (hheaders : r.headers = [("authorization", "Bearer " ++ token)]) (hvisible : isVisible token)
    (htoken : token.isEmpty = false) : r.token? = some token := by
  have hcookie : r.cookie? tokenCookie = none := by
    simp [Request.cookie?, Request.cookies, Request.headersNamed, hheaders]
  have hheader : r.header? "authorization" = some ("Bearer " ++ token) :=
    header?_of_bearer (by simp [hheaders]) hvisible
  simp [Request.token?, hcookie, hheader, withoutScheme_bearer, htoken]

end Depot.Http
