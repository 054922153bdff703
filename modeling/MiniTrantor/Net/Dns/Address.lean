import MiniTrantor.Net.Dns.DnsResolver

/-!
# Addresses of the resolver

The loops of the resolver over addresses, on their bytes. A worker copies what
`getaddrinfo` returned twice, once as it is and once without its port, and a cache
hit writes the port of its request into what was kept. The layout is that of Linux
on a little-endian machine.
-/

set_option autoImplicit false

namespace MiniTrantor.Net.Dns

def AF_INET : Nat := 2
def AF_INET6 : Nat := 10

def sizeofSockaddrIn : Nat := 16
def sizeofSockaddrIn6 : Nat := 28

/-- The offsets of `sin_port` and `sin6_port`. -/
def sinPort : Nat := 2
def sin6Port : Nat := 2

/-- `sockaddr_storage`, which is all that an `InetAddress` is made of. -/
abbrev SockaddrStorage := Vector UInt8 128

/-- An entry of the list that `getaddrinfo` returns. Its address has `ai_addrlen` bytes. -/
structure AddrInfo where
  aiFamily : Nat
  aiAddr : List UInt8
  deriving DecidableEq, Repr

def AddrInfo.aiAddrlen (info : AddrInfo) : Nat := info.aiAddr.length

def ssFamily (storage : SockaddrStorage) : Nat := storage[0].toNat + 256 * storage[1].toNat

/-- The bytes of a storage that was zeroed and into which some of an address is copied. -/
def memcpy (size : Nat) (address : List UInt8) : SockaddrStorage :=
  Vector.ofFn fun index => if index.val < size then address.getD index.val 0 else 0

/-- The bytes of `htons(port)` in memory. -/
def htons (port : Nat) : UInt8 × UInt8 := (UInt8.ofNat (port / 256), UInt8.ofNat port)

def setPort (field port : Nat) (storage : SockaddrStorage) : SockaddrStorage :=
  (storage.setIfInBounds field (htons port).1).setIfInBounds (field + 1) (htons port).2

/-- The loop of `workerThread`: the addresses that are delivered and those that are kept. -/
def collect : List AddrInfo → List SockaddrStorage × List SockaddrStorage
  | [] => ([], [])
  | info :: rest =>
      let (addresses, cacheAddrs) := collect rest
      if info.aiFamily = AF_INET ∧ info.aiAddrlen ≥ sizeofSockaddrIn then
        let storage := memcpy sizeofSockaddrIn info.aiAddr
        (storage :: addresses, setPort sinPort 0 storage :: cacheAddrs)
      else if info.aiFamily = AF_INET6 ∧ info.aiAddrlen ≥ sizeofSockaddrIn6 then
        let storage := memcpy sizeofSockaddrIn6 info.aiAddr
        (storage :: addresses, setPort sin6Port 0 storage :: cacheAddrs)
      else (addresses, cacheAddrs)

/-- The result of `workerThread`, for an answer or a call that failed. -/
def workerResult (answer : Option (List AddrInfo)) : Except NetError (List SockaddrStorage) :=
  match answer with
  | some infos =>
      if (collect infos).1.isEmpty then .error .resolveFailed else .ok (collect infos).1
  | none => .error .resolveFailed

/-- The body of the loop of `resolve` over the addresses of an entry. -/
def withPort (port : Nat) (storage : SockaddrStorage) : SockaddrStorage :=
  if ssFamily storage = AF_INET then setPort sinPort port storage
  else if ssFamily storage = AF_INET6 then setPort sin6Port port storage
  else storage

/-! ## What is relied on -/

def AddrInfo.port (info : AddrInfo) : UInt8 × UInt8 := (info.aiAddr.getD 2 0, info.aiAddr.getD 3 0)

def AddrInfo.withoutPort (info : AddrInfo) : AddrInfo :=
  { info with aiAddr := (info.aiAddr.set 2 0).set 3 0 }

/-- `getaddrinfo` where it does not fail: the address of an entry is of the family of the
entry and has the port that was asked for, and the list is the same for every port apart
from the ports. -/
structure Resolves (getaddrinfo : String → Nat → List AddrInfo) : Prop where
  family : ∀ hostname port, ∀ info ∈ getaddrinfo hostname port,
    info.aiFamily = AF_INET ∨ info.aiFamily = AF_INET6 →
      (info.aiAddr.getD 0 0).toNat + 256 * (info.aiAddr.getD 1 0).toNat = info.aiFamily
  port : ∀ hostname port, ∀ info ∈ getaddrinfo hostname port,
    info.aiFamily = AF_INET ∨ info.aiFamily = AF_INET6 → info.port = htons port
  same : ∀ hostname first second,
    (getaddrinfo hostname first).map AddrInfo.withoutPort =
      (getaddrinfo hostname second).map AddrInfo.withoutPort

/-! ## Bytes -/

theorem setPort_getElem (field port : Nat) (storage : SockaddrStorage) (inside : field + 1 < 128)
    (index : Nat) (bound : index < 128) :
    (setPort field port storage)[index] =
      if index = field then (htons port).1 else if index = field + 1 then (htons port).2
      else storage[index] := by
  unfold setPort
  rw [Vector.getElem_setIfInBounds, Vector.getElem_setIfInBounds]
  by_cases high : index = field
  · subst high
    simp
  · by_cases low : index = field + 1
    · subst low
      simp
    · rw [if_neg (Ne.symm low), if_neg (Ne.symm high), if_neg high, if_neg low]

theorem ssFamily_setPort (port : Nat) (storage : SockaddrStorage) :
    ssFamily (setPort 2 port storage) = ssFamily storage := by
  unfold ssFamily
  rw [setPort_getElem 2 port storage (by decide) 0, setPort_getElem 2 port storage (by decide) 1]
  rfl

/-- A port that is overwritten leaves nothing behind. -/
theorem setPort_setPort (first second : Nat) (storage : SockaddrStorage)
    (high : storage[2] = (htons second).1) (low : storage[3] = (htons second).2) :
    setPort 2 second (setPort 2 first storage) = storage := by
  ext index bound
  rw [setPort_getElem 2 second _ (by decide), setPort_getElem 2 first _ (by decide)]
  by_cases two : index = 2
  · subst two
    rw [if_pos rfl, high]
  · by_cases three : index = 3
    · subst three
      rw [if_neg two, if_pos rfl, low]
    · rw [if_neg two, if_neg three, if_neg two, if_neg three]

theorem memcpy_getElem (size : Nat) (address : List UInt8) (index : Nat) (bound : index < 128) :
    (memcpy size address)[index] = if index < size then address.getD index 0 else 0 := by
  simp [memcpy]

theorem getD_set (address : List UInt8) (place index : Nat) :
    (address.set place 0).getD index 0 = if index = place then 0 else address.getD index 0 := by
  rw [List.getD_eq_getElem?_getD, List.getElem?_set, List.getD_eq_getElem?_getD]
  by_cases same : place = index
  · subst same
    by_cases inside : place < address.length <;> simp [inside]
  · rw [if_neg same, if_neg (Ne.symm same)]

/-- The copy of an address without its port. -/
theorem memcpy_withoutPort (size : Nat) (info : AddrInfo) :
    memcpy size info.withoutPort.aiAddr = setPort 2 0 (memcpy size info.aiAddr) := by
  ext index bound
  rw [setPort_getElem 2 0 _ (by decide), memcpy_getElem, memcpy_getElem]
  simp only [AddrInfo.withoutPort, getD_set]
  have zero : htons 0 = (0, 0) := rfl
  rw [zero]
  by_cases two : index = 2
  · subst two
    rw [if_pos rfl]
    simp
  · by_cases three : index = 3
    · subst three
      simp
    · rw [if_neg two, if_neg three, if_neg two, if_neg three]

/-! ## The two lists -/

theorem withoutPort_length (info : AddrInfo) : info.withoutPort.aiAddrlen = info.aiAddrlen := by
  simp [AddrInfo.withoutPort, AddrInfo.aiAddrlen]

/-- What is kept is what would be delivered of an answer without ports. -/
theorem collect_withoutPort (infos : List AddrInfo) :
    (collect (infos.map AddrInfo.withoutPort)).1 = (collect infos).2 := by
  induction infos with
  | nil => rfl
  | cons info rest ih =>
      have family : info.withoutPort.aiFamily = info.aiFamily := rfl
      simp only [List.map_cons, collect, family, withoutPort_length]
      split
      · dsimp only
        rw [ih, memcpy_withoutPort]
        rfl
      · split
        · dsimp only
          rw [ih, memcpy_withoutPort]
          rfl
        · exact ih

/-- An address of an answer, with another port and back. -/
theorem withPort_setPort (size : Nat) (large : 4 ≤ size) (info : AddrInfo) (port : Nat)
    (family : (info.aiAddr.getD 0 0).toNat + 256 * (info.aiAddr.getD 1 0).toNat = AF_INET ∨
      (info.aiAddr.getD 0 0).toNat + 256 * (info.aiAddr.getD 1 0).toNat = AF_INET6)
    (asked : info.port = htons port) :
    withPort port (setPort 2 0 (memcpy size info.aiAddr)) = memcpy size info.aiAddr := by
  have high : (memcpy size info.aiAddr)[2] = (htons port).1 := by
    rw [← asked, memcpy_getElem, if_pos (by omega)]
    rfl
  have low : (memcpy size info.aiAddr)[3] = (htons port).2 := by
    rw [← asked, memcpy_getElem, if_pos (by omega)]
    rfl
  have kept : ssFamily (memcpy size info.aiAddr) =
      (info.aiAddr.getD 0 0).toNat + 256 * (info.aiAddr.getD 1 0).toNat := by
    rw [ssFamily, memcpy_getElem, memcpy_getElem, if_pos (by omega), if_pos (by omega)]
  have restored := setPort_setPort 0 port (memcpy size info.aiAddr) high low
  unfold withPort
  rw [ssFamily_setPort, kept]
  rcases family with four | six
  · rw [if_pos four]
    exact restored
  · rw [if_neg (by rw [six]; decide), if_pos six]
    exact restored

/-- Writing the port into what is kept gives back what is delivered. -/
theorem collect_withPort (infos : List AddrInfo) (port : Nat)
    (family : ∀ info ∈ infos, info.aiFamily = AF_INET ∨ info.aiFamily = AF_INET6 →
      (info.aiAddr.getD 0 0).toNat + 256 * (info.aiAddr.getD 1 0).toNat = info.aiFamily)
    (asked : ∀ info ∈ infos, info.aiFamily = AF_INET ∨ info.aiFamily = AF_INET6 →
      info.port = htons port) :
    (collect infos).2.map (withPort port) = (collect infos).1 := by
  induction infos with
  | nil => rfl
  | cons info rest ih =>
      have rest := ih (fun other member => family other (List.mem_cons_of_mem _ member))
        (fun other member => asked other (List.mem_cons_of_mem _ member))
      have family := family info List.mem_cons_self
      have asked := asked info List.mem_cons_self
      simp only [collect]
      split
      case isTrue four =>
        have same := family (.inl four.1)
        have back := withPort_setPort sizeofSockaddrIn (by decide) info port
          (.inl (same.trans four.1)) (asked (.inl four.1))
        simp only [List.map_cons, rest, sinPort, back]
      case isFalse =>
        split
        case isTrue six =>
          have same := family (.inr six.1)
          have back := withPort_setPort sizeofSockaddrIn6 (by decide) info port
            (.inr (same.trans six.1)) (asked (.inr six.1))
          simp only [List.map_cons, rest, sin6Port, back]
        case isFalse => exact rest

/-- An entry that was written for one port serves another. -/
theorem Resolves.serves {getaddrinfo : String → Nat → List AddrInfo}
    (resolves : Resolves getaddrinfo) (hostname : String) (first second : Nat) :
    (collect (getaddrinfo hostname first)).2.map (withPort second) =
      (collect (getaddrinfo hostname second)).1 := by
  rw [← collect_withoutPort, resolves.same hostname first second, collect_withoutPort]
  exact collect_withPort _ second (resolves.family hostname second) (resolves.port hostname second)

theorem collect_isEmpty (infos : List AddrInfo) :
    (collect infos).2.isEmpty = (collect infos).1.isEmpty := by
  induction infos with
  | nil => rfl
  | cons info rest ih =>
      simp only [collect]
      split
      · simp only [List.isEmpty_cons]
      · split
        · simp only [List.isEmpty_cons]
        · exact ih

end MiniTrantor.Net.Dns
