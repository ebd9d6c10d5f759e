import ClusterApi.RuntimeTypes
import ClusterApi.RegistryItems
import ClusterApi.Registry
import ClusterApi.RegistryRuns
import ClusterApi.RegistryLaws
import ClusterApi.RegistryCommute
import ClusterApi.RegistryLookup
import ClusterApi.RegistryRefinement
import ClusterApi.CABundle
import ClusterApi.Conversion
import ClusterApi.KcpConversion
import ClusterApi.ConversionLaws
import ClusterApi.Reconciler
import ClusterApi.ReconcilerLaws
import ClusterApi.MachinePoolConversion
