import JniBridge.Config
import JniBridge.Plan
import JniBridge.Proofs.Linked
import JniBridge.Proofs.Body
import JniBridge.Proofs.Callback
import JniBridge.Proofs.Acceptance
import JniBridge.Proofs.Downcall
import JniBridge.Proofs.Trampoline
import JniBridge.Proofs.Totality
import JniBridge.Proofs.Run
import JniBridge.Proofs.Cascade
import JniBridge.Proofs.Reference
import JniBridge.Proofs.Closure
import JniBridge.Proofs.Likeness
import JniBridge.Proofs.Lookalike
import JniBridge.Proofs.NativeHalf
import JniBridge.Proofs.Canonical
import JniBridge.Proofs.Pairing
import JniBridge.Proofs.Declared
import JniBridge.Proofs.Hygiene
import JniBridge.Proofs.Distinct
import JniBridge.Proofs.Traceless
import JniBridge.Proofs.Realisable
import JniBridge.Proofs.Spawning
import JniBridge.Proofs.Ownership
import JniBridge.Proofs.Reordering
import JniBridge.Proofs.Sifting
import JniBridge.Proofs.Namesakes
import JniBridge.Proofs.Interfaces
import JniBridge.Proofs.Wrappers
import JniBridge.Proofs.Transparency
import JniBridge.Proofs.Decoding
import JniBridge.Proofs.Solid
import JniBridge.Proofs.Support
import JniBridge.Proofs.Lockstep
import JniBridge.Proofs.Constants
import JniBridge.Proofs.Fusion
import JniBridge.Proofs.CallbackNames
import JniBridge.Proofs.Keys
import JniBridge.Proofs.Indentation
import JniBridge.Proofs.Spellings
