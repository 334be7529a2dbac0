/-!
# Powers

Powers with natural exponents are those of the core library. A library that has a notion of a power of
its own, and makes it the usual one, does not change what the definitions of this library mean.
-/

attribute [instance (high), default_instance high] instPowNat
