import LicenseSeal.Curve
import LicenseSeal.Text

/-!
# Curves by name

The curves that keys name.  Three of them may also be given by all of their numbers.
-/

namespace LicenseSeal.Curve

/-- The number that hexadecimal digits write, in pieces. -/
private def number (pieces : List String) : Nat :=
  pieces.foldl (fun number piece =>
    piece.text.foldl (fun number c => number * 16 + (Text.hexValue? c).getD 0) number) 0

/-- The curve of six numbers. -/
private def ofDigits (modulus a b order baseX baseY : List String) : Curve :=
  ⟨number modulus, number a, number b, number order, number baseX, number baseY⟩

def secp192r1 : Curve := ofDigits
  ["fffffffffffffffffffffffffffffffeffffffffffffffff"]
  ["fffffffffffffffffffffffffffffffefffffffffffffffc"]
  ["64210519e59c80e70fa7e9ab72243049feb8deecc146b9b1"]
  ["ffffffffffffffffffffffff99def836146bc9b1b4d22831"]
  ["188da80eb03090f67cbf20eb43a18800f4ff0afd82ff1012"]
  ["7192b95ffc8da78631011ed6b24cdd573f977a11e794811"]

def secp224r1 : Curve := ofDigits
  ["ffffffffffffffffffffffffffffffff000000000000000000000001"]
  ["fffffffffffffffffffffffffffffffefffffffffffffffffffffffe"]
  ["b4050a850c04b3abf54132565044b0b7d7bfd8ba270b39432355ffb4"]
  ["ffffffffffffffffffffffffffff16a2e0b8f03e13dd29455c5c2a3d"]
  ["b70e0cbd6bb4bf7f321390b94a03c1d356c21122343280d6115c1d21"]
  ["bd376388b5f723fb4c22dfe6cd4375a05a07476444d5819985007e34"]

def secp256r1 : Curve := ofDigits
  ["ffffffff00000001000000000000000000000000ffffffffffffffffffffffff"]
  ["ffffffff00000001000000000000000000000000fffffffffffffffffffffffc"]
  ["5ac635d8aa3a93e7b3ebbd55769886bc651d06b0cc53b0f63bce3c3e27d2604b"]
  ["ffffffff00000000ffffffffffffffffbce6faada7179e84f3b9cac2fc632551"]
  ["6b17d1f2e12c4247f8bce6e563a440f277037d812deb33a0f4a13945d898c296"]
  ["4fe342e2fe1a7f9b8ee7eb4a7c0f9e162bce33576b315ececbb6406837bf51f5"]

def secp384r1 : Curve := ofDigits
  ["ffffffffffffffffffffffffffffffffffffffffffffffff",
    "fffffffffffffffeffffffff0000000000000000ffffffff"]
  ["ffffffffffffffffffffffffffffffffffffffffffffffff",
    "fffffffffffffffeffffffff0000000000000000fffffffc"]
  ["b3312fa7e23ee7e4988e056be3f82d19181d9c6efe814112",
    "0314088f5013875ac656398d8a2ed19d2a85c8edd3ec2aef"]
  ["ffffffffffffffffffffffffffffffffffffffffffffffff",
    "c7634d81f4372ddf581a0db248b0a77aecec196accc52973"]
  ["aa87ca22be8b05378eb1c71ef320ad746e1d3b628ba79b98",
    "59f741e082542a385502f25dbf55296c3a545e3872760ab7"]
  ["3617de4a96262c6f5d9e98bf9292dc29f8f41dbd289a147c",
    "e9da3113b5f0b8c00a60b1ce1d7e819d7a431d7c90ea0e5f"]

def secp521r1 : Curve := ofDigits
  ["1fffffffffffffffffffffffffffffffffffffffffffffffffffffffffffffffff",
    "fffffffffffffffffffffffffffffffffffffffffffffffffffffffffffffffff"]
  ["1fffffffffffffffffffffffffffffffffffffffffffffffffffffffffffffffff",
    "ffffffffffffffffffffffffffffffffffffffffffffffffffffffffffffffffc"]
  ["51953eb9618e1c9a1f929a21a0b68540eea2da725b99b315f3b8b489918ef109e",
    "156193951ec7e937b1652c0bd3bb1bf073573df883d2c34f1ef451fd46b503f00"]
  ["1fffffffffffffffffffffffffffffffffffffffffffffffffffffffffffffffff",
    "a51868783bf2f966b7fcc0148f709a5d03bb5c9b8899c47aebb6fb71e91386409"]
  ["c6858e06b70404e9cd9e3ecb662395b4429c648139053fb521f828af606b4d3db",
    "aa14b5e77efe75928fe1dc127a2ffa8de3348b3c1856a429bf97e7e31c2e5bd66"]
  ["11839296a789a3bc0045c8a5fb42c7d1bd998f54449579b446817afbd17273e662",
    "c97ee72995ef42640c550b9013fad0761353c7086a272c24088be94769fd16650"]

def secp256k1 : Curve := ofDigits
  ["fffffffffffffffffffffffffffffffffffffffffffffffffffffffefffffc2f"]
  ["0"]
  ["7"]
  ["fffffffffffffffffffffffffffffffebaaedce6af48a03bbfd25e8cd0364141"]
  ["79be667ef9dcbbac55a06295ce870b07029bfcdb2dce28d959f2815b16f81798"]
  ["483ada7726a3c4655da4fbfc0e1108a8fd17b448a68554199c47d08ffb10d4b8"]

def brainpoolP256r1 : Curve := ofDigits
  ["a9fb57dba1eea9bc3e660a909d838d726e3bf623d52620282013481d1f6e5377"]
  ["7d5a0975fc2c3057eef67530417affe7fb8055c126dc5c6ce94a4b44f330b5d9"]
  ["26dc5c6ce94a4b44f330b5d9bbd77cbf958416295cf7e1ce6bccdc18ff8c07b6"]
  ["a9fb57dba1eea9bc3e660a909d838d718c397aa3b561a6f7901e0e82974856a7"]
  ["8bd2aeb9cb7e57cb2c4b482ffc81b7afb9de27e1e3bd23c23a4453bd9ace3262"]
  ["547ef835c3dac4fd97f8461a14611dc9c27745132ded8e545c1d54c72f046997"]

def brainpoolP384r1 : Curve := ofDigits
  ["8cb91e82a3386d280f5d6f7e50e641df152f7109ed5456b4",
    "12b1da197fb71123acd3a729901d1a71874700133107ec53"]
  ["7bc382c63d8c150c3c72080ace05afa0c2bea28e4fb22787",
    "139165efba91f90f8aa5814a503ad4eb04a8c7dd22ce2826"]
  ["4a8c7dd22ce28268b39b55416f0447c2fb77de107dcd2a62",
    "e880ea53eeb62d57cb4390295dbc9943ab78696fa504c11"]
  ["8cb91e82a3386d280f5d6f7e50e641df152f7109ed5456b3",
    "1f166e6cac0425a7cf3ab6af6b7fc3103b883202e9046565"]
  ["1d1c64f068cf45ffa2a63a81b7c13f6b8847a3e77ef14fe3",
    "db7fcafe0cbd10e8e826e03436d646aaef87b2e247d4af1e"]
  ["8abe1d7520f9c2a45cb1eb8e95cfd55262b70b29feec5864",
    "e19c054ff99129280e4646217791811142820341263c5315"]

def brainpoolP512r1 : Curve := ofDigits
  ["aadd9db8dbe9c48b3fd4e6ae33c9fc07cb308db3b3c9d20ed6639cca70330871",
    "7d4d9b009bc66842aecda12ae6a380e62881ff2f2d82c68528aa6056583a48f3"]
  ["7830a3318b603b89e2327145ac234cc594cbdd8d3df91610a83441caea9863bc",
    "2ded5d5aa8253aa10a2ef1c98b9ac8b57f1117a72bf2c7b9e7c1ac4d77fc94ca"]
  ["3df91610a83441caea9863bc2ded5d5aa8253aa10a2ef1c98b9ac8b57f1117a7",
    "2bf2c7b9e7c1ac4d77fc94cadc083e67984050b75ebae5dd2809bd638016f723"]
  ["aadd9db8dbe9c48b3fd4e6ae33c9fc07cb308db3b3c9d20ed6639cca70330870",
    "553e5c414ca92619418661197fac10471db1d381085ddaddb58796829ca90069"]
  ["81aee4bdd82ed9645a21322e9c4c6a9385ed9f70b5d916c1b43b62eef4d0098e",
    "ff3b1f78e2d0d48d50d1687b93b97d5f7c6d5047406a5e688b352209bcb9f822"]
  ["7dde385d566332ecc0eabfa9cf7822fdf209f70024a57b1aa000c55b881f8111",
    "b2dcde494a5f485e5bca4bd88a2763aed1ca2b2fa8f0540678cd1e0f3ad80892"]

end LicenseSeal.Curve
