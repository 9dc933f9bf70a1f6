/-!
# Powers

A power with a natural exponent is that of the core library in every module, also where an import
brings in another instance for the same sign.
-/

attribute [instance (10000), default_instance 10000] instPowNat
