namespace TopicSink

abbrev Byte := Fin 256

abbrev Bytes := List Byte

def Byte.ofNat (n : Nat) : Byte := ⟨n % 256, Nat.mod_lt n (Nat.succ_pos 255)⟩

end TopicSink
