import MetricAlgebra.Sample
import MetricAlgebra.Context

/-!
# Families

What one step of a metric expression yields: no data at all, or a batch of at least one sample under
one context. That there are no data differs from data that are all zero.
-/

namespace MetricAlgebra

/-- Samples of one evaluation step, at least one, with their context. -/
structure Batch where
  /-- The samples, in the order of evaluation. -/
  samples : List Sample
  /-- What travels with the samples. -/
  context : Context
  /-- There is a sample. -/
  nonempty : samples ≠ []
  deriving DecidableEq

/-- The number of samples. -/
def Batch.size (b : Batch) : Nat := b.samples.length

/-- What one evaluation step yields. -/
inductive Family where
  /-- No data. -/
  | empty
  /-- A batch of samples. -/
  | populated (batch : Batch)
  deriving DecidableEq

namespace Family

instance : Inhabited Family := ⟨empty⟩

/-- The family of a list of samples: no samples are no data. -/
def ofSamples (context : Context) (samples : List Sample) : Family :=
  if h : samples = [] then empty else populated ⟨samples, context, h⟩

/-- Builds a family, for which there has to be a sample. -/
def build (context : Context) (samples : List Sample) : Except Error Family :=
  if samples = [] then .error .emptyFamily else .ok (ofSamples context samples)

/-- Builds a family of histogram buckets, for which there has to be a sample. -/
def buildHistogram (context : Context) (samples : List Sample) : Except Error Family :=
  build { context with isHistogram := true } samples

/-- The samples in the order of evaluation: none where there are no data. -/
def samples : Family → List Sample
  | empty => []
  | populated batch => batch.samples

/-- The context, which no data do not have. -/
def context? : Family → Option Context
  | empty => none
  | populated batch => some batch.context

/-- Whether there are no data. -/
def isEmpty : Family → Bool
  | empty => true
  | populated _ => false

/-- The number of samples. -/
def size (f : Family) : Nat := f.samples.length

/-- Whether the samples are marked as buckets of histograms. -/
def isHistogram (f : Family) : Bool := (f.context?.map (·.isHistogram)).getD false

/-- The family of a list of samples has these samples. -/
@[simp] theorem samples_ofSamples (context : Context) (samples : List Sample) :
    (ofSamples context samples).samples = samples := by
  unfold ofSamples
  split <;> simp_all [Family.samples]

/-- Every value replaced by its image; labels, instants and context stay. -/
def mapValues (f : Family) (g : Float → Float) : Family :=
  match f with
  | empty => empty
  | populated batch =>
    ofSamples batch.context (batch.samples.map fun s => s.withValue (g s.value))

/-- The samples that pass a test; the context stays. -/
def filter (f : Family) (keep : Sample → Bool) : Family :=
  match f with
  | empty => empty
  | populated batch => ofSamples batch.context (batch.samples.filter keep)

/-- The samples under another context. -/
def mapContext (f : Family) (g : Context → Context) : Family :=
  match f with
  | empty => empty
  | populated batch => populated { batch with context := g batch.context }

/-- The samples to be downsampled in the given way. -/
def downsample (f : Family) (kind : Downsampling) : Family :=
  f.mapContext fun context => { context with downsampling := kind }

/-- Whether two lists of samples agree one by one. -/
def samplesAgree : List Sample → List Sample → Bool
  | [], [] => true
  | a :: as, b :: bs => a.agrees b && samplesAgree as bs
  | _, _ => false

/-- Whether two families agree, their values as numbers. -/
def agrees : Family → Family → Bool
  | empty, empty => true
  | populated a, populated b => samplesAgree a.samples b.samples && a.context == b.context
  | _, _ => false

end Family

end MetricAlgebra
