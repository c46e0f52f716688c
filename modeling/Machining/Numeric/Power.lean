/-!
# Powers

A power with a natural exponent is the built-in one wherever there is one, also beside a library
that has powers of its own for the same numbers.
-/

attribute [instance (high), default_instance 20000] instPowNat
