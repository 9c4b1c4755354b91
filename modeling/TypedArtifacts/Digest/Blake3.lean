import TypedArtifacts.Text.Hexadecimal

/-!
BLAKE3 in its hash mode: chunks of 1024 bytes are the leaves of a tree whose inner nodes compress
the values of their two children.
-/

namespace TypedArtifacts.Digest.Blake3

abbrev Block := Vector UInt32 16

abbrev Chain := Vector UInt32 8

def initial : Chain :=
  #v[0x6A09E667, 0xBB67AE85, 0x3C6EF372, 0xA54FF53A, 0x510E527F, 0x9B05688C, 0x1F83D9AB, 0x5BE0CD19]

def schedule : Vector (Fin 16) 16 :=
  #v[2, 6, 3, 10, 7, 0, 4, 13, 1, 11, 12, 5, 9, 14, 15, 8]

def rotate (w n : UInt32) : UInt32 :=
  (w >>> n) ||| (w <<< (32 - n))

def mix (s : Block) (a b c d : Fin 16) (x y : UInt32) : Block :=
  let va := s[a] + s[b] + x
  let vd := rotate (s[d] ^^^ va) 16
  let vc := s[c] + vd
  let vb := rotate (s[b] ^^^ vc) 12
  let va := va + vb + y
  let vd := rotate (vd ^^^ va) 8
  let vc := vc + vd
  let vb := rotate (vb ^^^ vc) 7
  (((s.set a va).set b vb).set c vc).set d vd

def round (m s : Block) : Block :=
  let s := mix s 0 4 8 12 m[0] m[1]
  let s := mix s 1 5 9 13 m[2] m[3]
  let s := mix s 2 6 10 14 m[4] m[5]
  let s := mix s 3 7 11 15 m[6] m[7]
  let s := mix s 0 5 10 15 m[8] m[9]
  let s := mix s 1 6 11 12 m[10] m[11]
  let s := mix s 2 7 8 13 m[12] m[13]
  mix s 3 4 9 14 m[14] m[15]

def rounds : Nat → Block → Block → Block
  | 0, _, s => s
  | n + 1, m, s => rounds n (Vector.ofFn fun i => m[schedule[i]]) (round m s)

structure Node where
  chain : Chain
  block : Block
  counter : UInt64
  size : UInt32
  flags : UInt32

def chunkStart : UInt32 := 1

def chunkEnd : UInt32 := 2

def parentNode : UInt32 := 4

def rootNode : UInt32 := 8

def Node.value (n : Node) : Chain :=
  let s := rounds 7 n.block (n.chain ++ #v[initial[0], initial[1], initial[2], initial[3],
    n.counter.toUInt32, (n.counter >>> 32).toUInt32, n.size, n.flags])
  Vector.ofFn fun i : Fin 8 => s[i.val] ^^^ s[i.val + 8]

def pieces (n : Nat) : List UInt8 → List (List UInt8)
  | [] => []
  | b :: bs => (b :: bs.take n) :: pieces n (bs.drop n)
  termination_by bytes => bytes.length
  decreasing_by simp only [List.length_drop, List.length_cons]; omega

def word (bytes : Array UInt8) (i : Nat) : UInt32 :=
  let part (k : Nat) : UInt32 := (bytes[4 * i + k]?.getD 0).toUInt32
  part 0 ||| (part 1 <<< 8) ||| (part 2 <<< 16) ||| (part 3 <<< 24)

def words (bytes : List UInt8) : Block :=
  let bytes := bytes.toArray
  Vector.ofFn fun i => word bytes i

def chunkBlocks (counter : UInt64) (chain : Chain) (flags : UInt32) : List (List UInt8) → Node
  | [] => ⟨chain, words [], counter, 0, flags ||| chunkEnd⟩
  | [b] => ⟨chain, words b, counter, UInt32.ofNat b.length, flags ||| chunkEnd⟩
  | b :: bs => chunkBlocks counter (Node.value ⟨chain, words b, counter, 64, flags⟩) 0 bs

def chunk (counter : Nat) (bytes : List UInt8) : Node :=
  chunkBlocks (UInt64.ofNat counter) initial chunkStart (pieces 63 bytes)

def leaves (bytes : List UInt8) : List Node :=
  match pieces 1023 bytes with
  | [] => [chunk 0 []]
  | cs => cs.mapIdx chunk

def parent (left right : Node) : Node :=
  ⟨initial, left.value ++ right.value, 0, 64, parentNode⟩

def pair : List Node → List Node
  | a :: b :: rest => parent a b :: pair rest
  | rest => rest

theorem length_pair : ∀ ns : List Node, (pair ns).length = (ns.length + 1) / 2
  | [] => rfl
  | [_] => by simp [pair]
  | a :: b :: rest => by
    rw [pair, List.length_cons, length_pair rest]
    simp only [List.length_cons]
    omega

def root : List Node → Node
  | [] => chunk 0 []
  | [n] => n
  | a :: b :: rest => root (pair (a :: b :: rest))
  termination_by ns => ns.length
  decreasing_by rw [length_pair]; simp only [List.length_cons]; omega

def wordBytes (w : UInt32) : List UInt8 :=
  [w.toUInt8, (w >>> 8).toUInt8, (w >>> 16).toUInt8, (w >>> 24).toUInt8]

def hash (bytes : List UInt8) : List UInt8 :=
  let n := root (leaves bytes)
  ({ n with flags := n.flags ||| rootNode }.value.toList).flatMap wordBytes

def hex (bytes : List UInt8) : String :=
  Text.Hexadecimal.encode (hash bytes)

end TypedArtifacts.Digest.Blake3
