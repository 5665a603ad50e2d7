import Marketplace.FormEncoding
import Marketplace.PropertyMap
import Mathlib.Data.Char
import Mathlib.Data.List.Lex
import Mathlib.Data.Rat.Floor

/-! `VnpayService`: what the signature of a payment's parameters covers, and that the gateway's
answer to a signed query verifies. -/
namespace Marketplace.Vnpay
open FormEncoding PropertyMap

structure Config where
  tmnCode : Text
  secret : Text
  payUrl : Text
  returnUrl : Text

/-- Without one of them checkout offers cash on delivery only. -/
def Config.isEnabled (config : Config) : Bool := config.tmnCode ≠ [] ∧ config.secret ≠ []

/-- The times are in milliseconds since 1970. -/
structure PaymentParams where
  txnRef : Text
  amount : Rat
  orderInfo : Text
  ipAddr : Text
  expireAt : Nat

/-- `crypto.createHmac('sha512', secret)` of a text. -/
abbrev Hmac := Text → Text → Fin 64 → UInt8

abbrev Parameters := PropertyMap Text

/-- Year, month and day of a day counted from 1970. -/
def civil (day : Nat) : Nat × Nat × Nat :=
  let z := day + 719468
  let era := z / 146097
  let doe := z % 146097
  let yoe := (doe - doe / 1460 + doe / 36524 - doe / 146096) / 365
  let doy := doe - (365 * yoe + yoe / 4 - yoe / 100)
  let mp := (5 * doy + 2) / 153
  let month := if mp < 10 then mp + 3 else mp - 9
  (yoe + era * 400 + if month ≤ 2 then 1 else 0, month, doy - (153 * mp + 2) / 5 + 1)

def digits (n : Nat) : Text := (toString n).toList

/-- `padStart(2, '0')` -/
def twoDigits (n : Nat) : Text := if n < 10 then '0' :: digits n else digits n

/-- In the time of Vietnam, seven hours ahead of UTC. -/
def formatVnpDate (time : Nat) : Text :=
  let seconds := (time + 7 * 60 * 60 * 1000) / 1000
  let (year, month, day) := civil (seconds / 86400)
  digits year ++ twoDigits month ++ twoDigits day ++
    twoDigits (seconds / 3600 % 24) ++ twoDigits (seconds / 60 % 60) ++ twoDigits (seconds % 60)

example : formatVnpDate 1709164800000 = "20240229070000".toList := by decide +kernel

def secureHashKey : Text := "vnp_SecureHash".toList
def secureHashTypeKey : Text := "vnp_SecureHashType".toList

/-- Names sort in the order of their encodings. -/
def sortAndEncode (obj : Parameters) : Parameters :=
  let encodedKeys := (obj.keys.map encodeURIComponent).insertionSort (· ≤ ·)
  assignAll encodedKeys fun ek => formEncode ((obj.read? (decodeURIComponent ek)).getD [])

def buildQuery (sorted : Parameters) : Text :=
  joinPairs (sorted.keys.map fun k => (k, (sorted.read? k).getD []))

def signData (obj : Parameters) : Text := buildQuery (sortAndEncode obj)

def hexLower (n : Nat) : Char := if n < 10 then Char.ofNat (48 + n) else Char.ofNat (87 + n)

def sign (hmac : Hmac) (secret data : Text) : Text :=
  (List.ofFn (hmac secret data)).flatMap fun b => [hexLower (b.toNat / 16), hexLower (b.toNat % 16)]

/-- `Buffer.from(text, 'hex')`, which stops at what is no pair of digits. -/
def fromHex : Text → List Nat
  | a :: b :: rest =>
    match hexValue a, hexValue b with
    | some x, some y => (16 * x + y) :: fromHex rest
    | _, _ => []
  | _ => []

/-- The length of a string, in UTF-16 units. -/
def utf16Length (text : Text) : Nat := (text.map fun c => if c.toNat < 0x10000 then 1 else 2).sum

/-- `timingSafeEqual` throws on buffers of two lengths, which the caller answers with `false`. -/
def timingSafeEqualHex (a b : Text) : Bool :=
  if utf16Length a ≠ utf16Length b then false else fromHex a = fromHex b

def paymentNames : List Text := [
  "vnp_Version", "vnp_Command", "vnp_TmnCode", "vnp_Locale", "vnp_CurrCode", "vnp_TxnRef", "vnp_OrderInfo",
  "vnp_OrderType", "vnp_Amount", "vnp_ReturnUrl", "vnp_IpAddr", "vnp_CreateDate", "vnp_ExpireDate"].map String.toList

theorem paymentNames_nodup : paymentNames.Nodup := by decide

def paymentData (config : Config) (params : PaymentParams) (now : Nat) : Parameters where
  entries := [
    ("vnp_Version".toList, "2.1.0".toList),
    ("vnp_Command".toList, "pay".toList),
    ("vnp_TmnCode".toList, config.tmnCode),
    ("vnp_Locale".toList, "vn".toList),
    ("vnp_CurrCode".toList, "VND".toList),
    ("vnp_TxnRef".toList, params.txnRef),
    ("vnp_OrderInfo".toList, params.orderInfo),
    ("vnp_OrderType".toList, "other".toList),
    -- `Math.round`
    ("vnp_Amount".toList, (toString ⌊params.amount * 100 + 1 / 2⌋).toList),
    ("vnp_ReturnUrl".toList, config.returnUrl),
    ("vnp_IpAddr".toList, params.ipAddr),
    ("vnp_CreateDate".toList, formatVnpDate now),
    ("vnp_ExpireDate".toList, formatVnpDate params.expireAt)]
  distinct := paymentNames_nodup

def paymentQuery (hmac : Hmac) (config : Config) (params : PaymentParams) (now : Nat) : Text :=
  let data := signData (paymentData config params now)
  data ++ "&vnp_SecureHash=".toList ++ sign hmac config.secret data

def buildPaymentUrl (hmac : Hmac) (config : Config) (params : PaymentParams) (now : Nat) : Text :=
  config.payUrl ++ '?' :: paymentQuery hmac config params now

/-- The parameters that `verifySignature` signs again. -/
def rest (query : Parameters) : Parameters :=
  query.keys.foldl (fun rest key =>
    if key = secureHashKey ∨ key = secureHashTypeKey then rest
    else rest.assign key ((query.read? key).getD [])) empty

def canonical (query : Parameters) : Text := signData (rest query)

def verifySignature (hmac : Hmac) (config : Config) (query : Parameters) : Bool :=
  if config.secret = [] then false
  else match query.read? secureHashKey with
    | none => false
    | some received =>
      if received = [] then false
      else timingSafeEqualHex received (sign hmac config.secret (canonical query))

/-! ### What is signed -/

def encodePair (p : Text × Text) : Text × Text := (encodeURIComponent p.1, formEncode p.2)

def visible (obj : Parameters) : List (Text × Text) := obj.entries.filter fun e => e.1 ≠ protoName

def encodedKeys (obj : Parameters) : List Text := (obj.keys.map encodeURIComponent).insertionSort (· ≤ ·)

theorem encode_injective : Function.Injective encodeURIComponent := by
  intro one other same
  exact (decode_encode one).symm.trans ((congrArg decodeURIComponent same).trans (decode_encode other))

theorem encode_proto {name : Text} : encodeURIComponent name = protoName ↔ name = protoName := by
  have itself : encodeURIComponent protoName = protoName := by decide
  constructor
  · intro same
    exact encode_injective (same.trans itself.symm)
  · rintro rfl
    exact itself

theorem encodedKeys_perm (obj : Parameters) : (encodedKeys obj).Perm (obj.names.map encodeURIComponent) :=
  (List.perm_insertionSort _ _).trans (obj.keys_perm.map _)

theorem encodedKeys_nodup (obj : Parameters) : (encodedKeys obj).Nodup :=
  (encodedKeys_perm obj).nodup_iff.mpr (obj.distinct.map encode_injective)

theorem visible_names (obj : Parameters) :
    ((encodedKeys obj).filter (· ≠ protoName)).Perm (((visible obj).map Prod.fst).map encodeURIComponent) := by
  refine ((encodedKeys_perm obj).filter _).trans ?_
  unfold visible names
  rw [List.map_map, List.map_map, List.filter_map]
  refine List.Perm.of_eq (congrArg _ (List.filter_congr fun e _ => ?_))
  simp only [Function.comp, ne_eq, encode_proto]

theorem sortAndEncode_entries (obj : Parameters) :
    (sortAndEncode obj).entries = ((encodedKeys obj).filter (· ≠ protoName)).map
      fun ek => (ek, formEncode ((obj.read? (decodeURIComponent ek)).getD [])) :=
  assignAll_entries (encodedKeys_nodup obj) _

theorem sortAndEncode_names (obj : Parameters) :
    (sortAndEncode obj).names = (encodedKeys obj).filter (· ≠ protoName) := by
  unfold names
  rw [sortAndEncode_entries, List.map_map]
  exact List.map_id _

theorem encode_decode {obj : Parameters} {ek : Text} (mem : ek ∈ (sortAndEncode obj).names) :
    encodeURIComponent (decodeURIComponent ek) = ek := by
  rw [sortAndEncode_names] at mem
  obtain ⟨name, _, rfl⟩ := List.mem_map.mp ((encodedKeys_perm obj).mem_iff.mp (List.mem_filter.mp mem).1)
  rw [decode_encode]

/-- The signed text is the form encoding of all parameters, in some order. -/
theorem signData_pairs (obj : Parameters) :
    ∃ pairs : List (Text × Text), pairs.Perm (visible obj) ∧ signData obj = joinPairs (pairs.map encodePair) := by
  refine ⟨(sortAndEncode obj).keys.map fun ek => (decodeURIComponent ek, (obj.read? (decodeURIComponent ek)).getD []), ?_, ?_⟩
  · have listed := (sortAndEncode obj).keys_perm
    rw [sortAndEncode_names] at listed
    refine ((listed.trans (visible_names obj)).map _).trans (List.Perm.of_eq ?_)
    rw [List.map_map, List.map_map]
    refine (List.map_congr_left fun e mem => ?_).trans (List.map_id _)
    have held := obj.read?_eq_some.mpr (List.mem_filter.mp mem).1
    dsimp only [Function.comp]
    rw [decode_encode, held]
    rfl
  · unfold signData buildQuery
    rw [List.map_map]
    refine congrArg joinPairs (List.map_congr_left fun ek mem => ?_)
    have named := (sortAndEncode obj).keys_perm.mem_iff.mp mem
    have value : (sortAndEncode obj).read? ek = some (formEncode ((obj.read? (decodeURIComponent ek)).getD [])) := by
      rw [read?_eq_some, sortAndEncode_entries]
      rw [sortAndEncode_names] at named
      exact List.mem_map_of_mem named
    dsimp only [Function.comp, encodePair]
    rw [value, encode_decode named]
    rfl

theorem formParse_signData (obj : Parameters) : (formParse (signData obj)).Perm (visible obj) := by
  obtain ⟨pairs, same, signed⟩ := signData_pairs obj
  rw [signed]
  refine List.Perm.trans (List.Perm.of_eq ?_) same
  exact formParse_join pairs

/-- The signed text does not depend on the order in which the parameters came. -/
theorem signData_of_perm {one other : Parameters} (same : (visible one).Perm (visible other)) :
    signData one = signData other := by
  have keys : (encodedKeys one).filter (· ≠ protoName) = (encodedKeys other).filter (· ≠ protoName) := by
    have sorted (obj : Parameters) : ((encodedKeys obj).filter (· ≠ protoName)).Pairwise (· ≤ ·) :=
      (List.pairwise_insertionSort _ _).filter _
    have both := (visible_names one).trans (((same.map _).map _).trans (visible_names other).symm)
    exact both.eq_of_pairwise' (sorted one) (sorted other)
  have reads := (filter_perm_iff one other fun name => name ≠ protoName).mp same
  have entries : (sortAndEncode one).entries = (sortAndEncode other).entries := by
    rw [sortAndEncode_entries, sortAndEncode_entries, keys]
    refine List.map_congr_left fun ek mem => ?_
    have named := (sortAndEncode_names other).symm ▸ mem
    have plain : decodeURIComponent ek ≠ protoName := by
      intro proto
      have back := encode_decode named
      rw [proto, encode_proto.mpr rfl] at back
      exact absurd back.symm (of_decide_eq_true (List.mem_filter.mp mem).2)
    rw [reads _ (decide_eq_true plain)]
  unfold signData
  rw [ext_entries entries]

theorem signData_eq_iff (one other : Parameters) : signData one = signData other ↔ (visible one).Perm (visible other) := by
  constructor
  · intro same
    have parsed := formParse_signData one
    rw [same] at parsed
    exact parsed.symm.trans (formParse_signData other)
  · exact signData_of_perm

/-! ### What is verified -/

def signedName (name : Text) : Bool := name ≠ protoName ∧ name ≠ secureHashKey ∧ name ≠ secureHashTypeKey

theorem rest_assigns (query : Parameters) :
    rest query = assignAll (query.keys.filter fun key => !decide (key = secureHashKey ∨ key = secureHashTypeKey))
      fun key => (query.read? key).getD [] := by
  unfold rest assignAll
  rw [List.foldl_filter]
  refine congrArg (fun loop => query.keys.foldl loop empty) ?_
  funext o key
  by_cases hash : key = secureHashKey ∨ key = secureHashTypeKey
  · rw [if_pos hash, if_neg (by simp [hash])]
  · rw [if_neg hash, if_pos (by simp [hash])]

theorem rest_entries (query : Parameters) :
    (rest query).entries = (query.keys.filter signedName).map fun key => (key, (query.read? key).getD []) := by
  have distinct : query.keys.Nodup := query.keys_perm.nodup_iff.mpr query.distinct
  rw [rest_assigns, assignAll_entries (distinct.filter _), List.filter_filter]
  refine congrArg (List.map _) (List.filter_congr fun key _ => ?_)
  simp [signedName]

theorem rest_visible (query : Parameters) : (visible (rest query)).Perm (query.entries.filter fun e => signedName e.1) := by
  have kept : visible (rest query) = (rest query).entries := by
    refine List.filter_eq_self.mpr fun e mem => ?_
    rw [rest_entries] at mem
    obtain ⟨key, chosen, rfl⟩ := List.mem_map.mp mem
    exact decide_eq_true (of_decide_eq_true (List.mem_filter.mp chosen).2).1
  rw [kept, rest_entries]
  refine ((query.keys_perm.filter _).map _).trans (List.Perm.of_eq ?_)
  unfold names
  rw [List.filter_map, List.map_map]
  refine (List.map_congr_left fun e mem => ?_).trans (List.map_id _)
  have held := query.read?_eq_some.mpr (List.mem_filter.mp mem).1
  dsimp only [Function.comp]
  rw [held]
  rfl

/-- Two queries sign the same text just when they agree in every signed name. -/
theorem canonical_eq_iff (one other : Parameters) :
    canonical one = canonical other ↔ ∀ name, signedName name = true → one.read? name = other.read? name := by
  unfold canonical
  rw [signData_eq_iff, ← filter_perm_iff one other signedName]
  constructor
  · intro same
    exact (rest_visible one).symm.trans (same.trans (rest_visible other))
  · intro same
    exact (rest_visible one).trans (same.trans (rest_visible other).symm)

theorem timingSafeEqualHex_self (text : Text) : timingSafeEqualHex text text = true := by
  unfold timingSafeEqualHex
  rw [if_neg (not_not_intro rfl), decide_eq_true_eq]

theorem sign_length (hmac : Hmac) (secret data : Text) : (sign hmac secret data).length = 128 := by
  unfold sign
  rw [List.length_flatMap]
  simp

theorem sign_unreserved (hmac : Hmac) (secret data : Text) : ∀ c ∈ sign hmac secret data, isUnreserved c = true := by
  have lower : ∀ k < 16, isUnreserved (hexLower k) = true := by decide
  intro c mem
  obtain ⟨b, _, digit⟩ := List.mem_flatMap.mp mem
  have bound := b.toNat_lt
  simp only [List.mem_cons, List.not_mem_nil, or_false] at digit
  rcases digit with rfl | rfl
  · exact lower _ (by omega)
  · exact lower _ (by omega)

theorem formEncode_unreserved {text : Text} (plain : ∀ c ∈ text, isUnreserved c = true) : formEncode text = text := by
  rw [formEncode_chars]
  induction text with
  | nil => rfl
  | cons c text ih =>
    have unreserved := plain c List.mem_cons_self
    have visible : c ≠ ' ' := by
      rintro rfl
      exact absurd unreserved (by decide)
    have char : formChar c = [c] := by
      unfold formChar encodeChar
      rw [if_neg visible, if_pos unreserved]
    rw [List.flatMap_cons, char, ih fun c mem => plain c (List.mem_cons_of_mem _ mem)]
    rfl

theorem visible_signed {data : Parameters} (named : ∀ e ∈ data.entries, signedName e.1 = true) :
    visible data = data.entries := by
  refine List.filter_eq_self.mpr fun e mem => ?_
  exact decide_eq_true (of_decide_eq_true (named e mem)).1

theorem formParse_signed (hmac : Hmac) (secret : Text) {data : Parameters} (nonempty : data.entries ≠ [])
    (named : ∀ e ∈ data.entries, signedName e.1 = true) :
    ∃ pairs : List (Text × Text), pairs.Perm data.entries ∧
      formParse (signData data ++ "&vnp_SecureHash=".toList ++ sign hmac secret (signData data)) =
        pairs ++ [(secureHashKey, sign hmac secret (signData data))] := by
  obtain ⟨pairs, same, signed⟩ := signData_pairs data
  rw [visible_signed named] at same
  refine ⟨pairs, same, ?_⟩
  generalize hash : sign hmac secret (signData data) = digest
  have plain : formEncode digest = digest := by
    rw [← hash]
    exact formEncode_unreserved (sign_unreserved hmac secret _)
  have filled : pairs.map encodePair ≠ [] := by
    intro empty
    rw [List.map_eq_nil_iff.mp empty] at same
    exact nonempty same.symm.eq_nil
  have joined : signData data ++ "&vnp_SecureHash=".toList ++ digest =
      joinPairs ((pairs ++ [(secureHashKey, digest)]).map encodePair) := by
    rw [List.map_append, List.map_singleton, joinPairs_concat filled, signed, List.append_assoc]
    dsimp only [encodePair]
    rw [plain]
    rfl
  rw [joined]
  exact formParse_join _

/-- The query that carries the signature of some parameters verifies. -/
theorem verifies (hmac : Hmac) (config : Config) (configured : config.secret ≠ []) {data : Parameters}
    (nonempty : data.entries ≠ []) (named : ∀ e ∈ data.entries, signedName e.1 = true) :
    verifySignature hmac config (fromEntries (formParse
      (signData data ++ "&vnp_SecureHash=".toList ++ sign hmac config.secret (signData data)))) = true := by
  obtain ⟨pairs, same, parsed⟩ := formParse_signed hmac config.secret nonempty named
  have absent : ∀ e ∈ pairs, signedName e.1 = true := fun e mem => named e (same.mem_iff.mp mem)
  have unsigned : signedName secureHashKey = false := by decide
  have distinct : ((pairs ++ [(secureHashKey, sign hmac config.secret (signData data))]).map Prod.fst).Nodup := by
    rw [List.map_append]
    refine ((same.map Prod.fst).nodup_iff.mpr data.distinct).append (List.nodup_singleton _) ?_
    refine List.disjoint_singleton.mpr fun mem => ?_
    obtain ⟨e, held, hash⟩ := List.mem_map.mp mem
    have signed := absent e held
    rw [hash, unsigned] at signed
    cases signed
  rw [parsed]
  generalize hash : sign hmac config.secret (signData data) = digest at distinct
  have entries := fromEntries_entries distinct
  generalize fromEntries (pairs ++ [(secureHashKey, digest)]) = query at entries
  have received : query.read? secureHashKey = some digest := by
    rw [read?_eq_some, entries]
    exact List.mem_append_right _ List.mem_cons_self
  have filled : digest ≠ [] := by
    rintro rfl
    have length := sign_length hmac config.secret (signData data)
    rw [hash] at length
    cases length
  have signedAgain : canonical query = signData data := by
    refine signData_of_perm ((rest_visible query).trans ?_)
    rw [entries, List.filter_append, List.filter_eq_self.mpr absent, List.filter_singleton, unsigned,
      visible_signed named, cond_false, List.append_nil]
    exact same
  unfold verifySignature
  rw [if_neg configured, received]
  dsimp only
  rw [if_neg filled, signedAgain, hash]
  exact timingSafeEqualHex_self digest

theorem paymentData_signed (config : Config) (params : PaymentParams) (now : Nat) :
    ∀ e ∈ (paymentData config params now).entries, signedName e.1 = true := by
  have names : ∀ name ∈ paymentNames, signedName name = true := by decide
  intro e mem
  exact names e.1 (List.mem_map_of_mem mem)

theorem fromHex_digits (bytes : List UInt8) :
    fromHex (bytes.flatMap fun b => [hexLower (b.toNat / 16), hexLower (b.toNat % 16)]) = bytes.map UInt8.toNat := by
  have value : ∀ k < 16, hexValue (hexLower k) = some k := by decide
  induction bytes with
  | nil => rfl
  | cons b bytes ih =>
    have bound := b.toNat_lt
    rw [List.flatMap_cons, List.cons_append, List.cons_append, List.nil_append, fromHex,
      value _ (by omega), value _ (Nat.mod_lt _ (by omega))]
    dsimp only
    rw [ih, Nat.div_add_mod, List.map_cons]

theorem sign_injective (hmac : Hmac) (secret : Text) {one other : Text}
    (same : sign hmac secret one = sign hmac secret other) : hmac secret one = hmac secret other := by
  have bytes := congrArg fromHex same
  unfold sign at bytes
  rw [fromHex_digits, fromHex_digits] at bytes
  exact List.ofFn_injective (List.map_injective_iff.mpr (fun _ _ => UInt8.toNat_inj.mp) bytes)

/-- The same parameters, beside the two fields of the signature. -/
def SameParameters (one other : Parameters) : Prop :=
  ∀ name, name ≠ secureHashKey → name ≠ secureHashTypeKey → one.read? name = other.read? name

/-- The payment URL verifies, and two maps with one canonical string or one signature are the same. -/
structure Authentic (hmac : Hmac) (config : Config) (params : PaymentParams) (now : Nat) (one other : Parameters) :
    Prop where
  verified : verifySignature hmac config (fromEntries (formParse (paymentQuery hmac config params now))) = true
  canonical_apart : canonical one = canonical other → SameParameters one other
  signed_apart : sign hmac config.secret (canonical one) = sign hmac config.secret (canonical other) →
    SameParameters one other

/-- The maps differ in the parameter `__proto__`, and in no other that is signed. -/
def DifferByProto (one other : Parameters) : Prop :=
  one.read? protoName ≠ other.read? protoName ∧ ∀ name, signedName name = true → one.read? name = other.read? name

theorem same_of_signed {one other : Parameters} (apart : ¬DifferByProto one other)
    (same : ∀ name, signedName name = true → one.read? name = other.read? name) : SameParameters one other := by
  intro name notHash notType
  rcases eq_or_ne name protoName with rfl | plain
  · by_contra differ
    exact apart ⟨differ, same⟩
  · exact same name (decide_eq_true ⟨plain, notHash, notType⟩)

theorem authentic_iff (hmac : Hmac) (config : Config) (enabled : config.isEnabled = true) (params : PaymentParams)
    (now : Nat) (one other : Parameters)
    (collisionFree : hmac config.secret (canonical one) = hmac config.secret (canonical other) →
      canonical one = canonical other) :
    Authentic hmac config params now one other ↔ ¬DifferByProto one other := by
  constructor
  · rintro authentic ⟨differ, same⟩
    have equal := authentic.canonical_apart ((canonical_eq_iff one other).mpr same)
    exact differ (equal protoName (by decide) (by decide))
  · intro apart
    have canonical_apart : canonical one = canonical other → SameParameters one other :=
      fun same => same_of_signed apart ((canonical_eq_iff one other).mp same)
    have configured : config.secret ≠ [] := (of_decide_eq_true enabled).2
    refine ⟨?_, canonical_apart, fun same => canonical_apart (collisionFree (sign_injective hmac _ same))⟩
    exact verifies hmac config configured (List.cons_ne_nil _ _) (paymentData_signed config params now)

def sandbox : Config where
  tmnCode := "TESTTMN".toList
  secret := "TESTSECRET1234567890".toList
  payUrl := "https://sandbox.vnpayment.vn/paymentv2/vpcpay.html".toList
  returnUrl := "http://localhost:8080/api/v1/payments/vnpay/return".toList

def firstPayment : PaymentParams where
  txnRef := "ORD1-123".toList
  amount := 150000
  orderInfo := "Thanh toan don hang ORD1".toList
  ipAddr := "127.0.0.1".toList
  expireAt := 1709165700000

def reference (txnRef : String) : Parameters := fromEntries [("vnp_TxnRef".toList, txnRef.toList)]

/-- What HMAC-SHA512 makes of the texts below, under the secret of `sandbox`. -/
def sampleHmac : Hmac := fun _ data i =>
  let digest :=
    if data = "vnp_TxnRef=1".toList then
      "e00f01d918af1513a8c034f28a24ee5e2835701cce3045402f8213e991e8bf019d33a9af94e0cc6cf713779b3ae68dd3d9e0004b958626c54b4fe74a167f772c"
    else if data = "vnp_TxnRef=2".toList then
      "9ffbb40e36fa0af04f695f9b1d451b7cdb147ce1f36b98c8d67d0e14c99af98d100627314b21be5d2d6582e29c8b372eb81160bd9188a9df6d87316f1636b5f8"
    else
      "bdcc7aca43c08f0a1490426f1e72f292b3d1fd7bd5a38be714709ed80e076cbf13cf43113b6a4b656c5ca29ea206fa16a14faaad0b15e4cd97c4f11c485f9567"
  UInt8.ofNat ((fromHex digest.toList).getD i 0)

theorem authentic_references :
    Authentic sampleHmac sandbox firstPayment 1709164800000 (reference "1") (reference "2") ↔
      ¬DifferByProto (reference "1") (reference "2") := by
  refine authentic_iff sampleHmac sandbox (by decide) firstPayment 1709164800000 _ _ fun same => ?_
  have first := congrFun same 0
  exact absurd first (by decide +kernel)

/-- The parameter that the copy loses. -/
def polluted : Parameters := fromEntries [("vnp_TxnRef".toList, ['1']), (protoName, ['x'])]

theorem not_authentic_polluted : ¬Authentic sampleHmac sandbox firstPayment 1709164800000 (reference "1") polluted := by
  intro authentic
  have same : canonical (reference "1") = canonical polluted := by decide +kernel
  have equal := authentic.canonical_apart same protoName (by decide) (by decide)
  exact absurd equal (by decide +kernel)

end Marketplace.Vnpay
